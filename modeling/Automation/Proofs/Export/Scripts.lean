import Automation.Proofs.Export.Ensures
import Automation.Proofs.Library.Draft
import Automation.Proofs.Library.Watching

/-!
# Scripts over a draft

`play` is what a script makes of a draft, without the remarks; `ensures_perform_play` says that the
memory builder performs a script as it is played. What a script does to the types of a draft is
written down as a list of edits: `Plays` says that the script is played to its end and makes these
edits, or else that something is `bad`. `Plays.append` and `plays_flatMap` put scripts together whose
edits are about different types.
-/

namespace Automation.Export

open Library

/-- The builder that keeps libraries in memory, under watch. -/
def watchedMemory : Builder (Watch Unit Draft Library) Draft Library := Draft.builder.watched

/-- The progress of an export into memory, under watch. -/
abbrev MemoryProgress := Progress (Watch Unit Draft Library) Draft Library

/-- What a script makes of a draft, or how it ends the export. -/
def play : List Step → Draft → Except ExportError Draft
  | [], d => .ok d
  | .remark _ :: later, d => play later d
  | .request context r :: later, d =>
    match d.answer r with
    | (.ok _, d') => play later d'
    | (.error error, _) => .error (.build context error)
  | .abort error :: _, _ => .error error

theorem play_request {context : String} {r : Request .done} {later : List Step} {d d' : Draft}
    (h : d.answer r = (.ok (), d')) : play (.request context r :: later) d = play later d' := by
  simp only [play, h]

theorem play_append (first second : List Step) (d : Draft) :
    play (first ++ second) d = (play first d).bind (play second) := by
  induction first generalizing d with
  | nil => rfl
  | cons step later ih =>
    cases step with
    | remark r => exact ih d
    | request context r =>
      simp only [List.cons_append, play]
      rcases d.answer r with ⟨error | answer, d'⟩
      · rfl
      · exact ih d'
    | abort error => rfl

theorem play_remarks (remarks : List Remark) (later : List Step) (d : Draft) :
    play (remarks.map Step.remark ++ later) d = play later d := by
  induction remarks with
  | nil => rfl
  | cons r _ ih => exact ih

/-! ## Performed as played -/

/-- Nothing but the draft, the questions and the diagnostics has changed. -/
structure Quiet (p q : MemoryProgress) : Prop where
  references : q.session.references = p.session.references
  generated : q.session.generated = p.session.generated
  world : q.session.world = p.session.world

theorem Quiet.refl (p : MemoryProgress) : Quiet p p := ⟨rfl, rfl, rfl⟩

theorem Quiet.trans {p q r : MemoryProgress} (h : Quiet p q) (h' : Quiet q r) : Quiet p r :=
  ⟨h'.references.trans h.references, h'.generated.trans h.generated, h'.world.trans h.world⟩

theorem quiet_note (p : MemoryProgress) (r : Remark) : Quiet p (p.note r) := by
  cases r <;> exact ⟨rfl, rfl, rfl⟩

@[simp] theorem draft_note (p : MemoryProgress) (r : Remark) : (p.note r).draft = p.draft := by
  cases r <;> rfl

/-- A request that is not for a layout is answered by the draft alone. -/
theorem answer_watchedMemory {kind : ReplyKind} {r : Request kind} (h : r.isLayOut = false)
    (w : Watch Unit Draft Library) (d : Draft) :
    watchedMemory.answer r w d = ((d.answer r).1, w, (d.answer r).2) := by
  simp [watchedMemory, Builder.watched, Draft.builder, h]

theorem ensures_request_quiet {context : String} {kind : ReplyKind} {r : Request kind}
    (h : r.isLayOut = false) (p : MemoryProgress) :
    Ensures (request watchedMemory context r) p
      (fun a q => p.draft.answer r = (.ok a, q.draft) ∧ Quiet p q)
      fun e q => (∃ error, (p.draft.answer r).1 = .error error ∧ e = .build context error) ∧
        Quiet p q := by
  refine ensures_request (fun a world draft ha => ?_) fun error world draft ha => ?_
  all_goals
    rw [answer_watchedMemory h] at ha
    obtain ⟨houtcome, rfl, rfl⟩ := by simpa only [Prod.mk.injEq] using ha
  · exact ⟨Prod.ext houtcome rfl, rfl, rfl, rfl⟩
  · exact ⟨⟨error, houtcome, rfl⟩, rfl, rfl, rfl⟩

/-- A request that a draft accepts. -/
theorem ensures_request_ok {context : String} {kind : ReplyKind} {r : Request kind}
    (h : r.isLayOut = false) {p : MemoryProgress} {a : kind.Answer} {d : Draft}
    (ha : p.draft.answer r = (.ok a, d)) {failed : ExportError → MemoryProgress → Prop} :
    Ensures (request watchedMemory context r) p
      (fun a' q => a' = a ∧ q.draft = d ∧ Quiet p q) failed := by
  refine (ensures_request_quiet h p).imp ?_ ?_
  · rintro a' q ⟨ha', hquiet⟩
    rw [ha] at ha'
    obtain ⟨houtcome, hdraft⟩ := Prod.mk.inj ha'
    exact ⟨(Except.ok.inj houtcome).symm, hdraft.symm, hquiet⟩
  · rintro e q ⟨⟨error, herror, -⟩, -⟩
    rw [ha] at herror
    exact Except.noConfusion rfl rfl (heq_of_eq herror)

/-- **The memory builder performs a script as it is played**, up to the layouts. -/
theorem ensures_perform_play {steps : List Step}
    (h : ∀ context (r : Request .done), Step.request context r ∈ steps → r.isLayOut = false)
    (p : MemoryProgress) :
    Ensures (perform watchedMemory steps) p
      (fun _ q => play steps p.draft = .ok q.draft ∧ Quiet p q)
      fun e q => play steps p.draft = .error e ∧ Quiet p q := by
  induction steps generalizing p with
  | nil => exact ensures_pure ⟨rfl, .refl p⟩
  | cons step later ih =>
    have hlater := ih fun context r hr => h context r (List.mem_cons_of_mem _ hr)
    cases step with
    | remark r =>
      refine Ensures.bind (ensures_remark ?_) fun _ _ h => h
      refine (hlater (p.note r)).imp ?_ ?_
      all_goals
        rintro _ q ⟨hplay, hquiet⟩
        exact ⟨by simpa [play] using hplay, (quiet_note p r).trans hquiet⟩
    | request context r =>
      refine ((ensures_request_quiet (h context r List.mem_cons_self) p).imp (fun a q hq => hq)
        ?_).bind ?_
      · rintro e q ⟨⟨error, herror, rfl⟩, hquiet⟩
        refine ⟨?_, hquiet⟩
        rcases ha : p.draft.answer r with ⟨outcome, d⟩
        rw [ha] at herror
        obtain rfl : outcome = .error error := herror
        simp only [play, ha]
      · rintro a q ⟨ha, hquiet⟩
        refine (hlater q).imp ?_ ?_
        all_goals
          rintro _ q' ⟨hplay, hquiet'⟩
          exact ⟨by simpa only [play, ha] using hplay, hquiet.trans hquiet'⟩
    | abort e => exact ensures_throw ⟨rfl, .refl p⟩

/-! ## Edits -/

/-- What a script does to one type: what the type is before and after, and which names are claimed
for it, as they are compared. -/
structure Edit where
  handle : Handle
  before : TypeInfo
  after : TypeInfo
  claims : List String := []

/-- The draft can be edited: the types are open, and what they should be. -/
def Awaits (d : Draft) (edits : List Edit) : Prop := ∀ e ∈ edits, d.IsOpen e.handle e.before

/-- The edits have been made, and nothing else has changed. -/
structure Applied (edits : List Edit) (d d' : Draft) : Prop where
  after : ∀ e ∈ edits, d'.IsOpen e.handle e.after
  others : ∀ i, (∀ e ∈ edits, e.handle.index ≠ i) → d'.types[i]? = d.types[i]?
  length : d'.types.length = d.types.length
  imports : d'.imports = d.imports
  attributes : d'.attributes = d.attributes
  names : ∀ key, key ∈ d'.names ↔ key ∈ d.names ∨ ∃ e ∈ edits, key ∈ e.claims

theorem applied_nil (d : Draft) : Applied [] d d where
  after := fun _ h => nomatch h
  others := fun _ _ => rfl
  length := rfl
  imports := rfl
  attributes := rfl
  names := by simp

theorem applied_setInfo {d : Draft} {h : Handle} {t : TypeInfo} (ho : d.IsOpen h t) (t' : TypeInfo) :
    Applied [⟨h, t, t', []⟩] d (d.setInfo h t') where
  after := by simpa using ho.setInfo t'
  others := fun i hi => Draft.getElem?_setInfo_ne (hi _ List.mem_cons_self)
  length := Draft.length_setInfo
  imports := rfl
  attributes := rfl
  names := by simp

/-- A type is changed and a name is claimed for it. -/
theorem applied_claim {d : Draft} {h : Handle} {t : TypeInfo} (ho : d.IsOpen h t) (t' : TypeInfo)
    (key : String) :
    Applied [⟨h, t, t', [key]⟩] d (Draft.setInfo { d with names := key :: d.names } h t') where
  after := by
    have ho' : Draft.IsOpen { d with names := key :: d.names } h t := ho
    simpa using ho'.setInfo t'
  others := fun i hi => Draft.getElem?_setInfo_ne (hi _ List.mem_cons_self)
  length := Draft.length_setInfo
  imports := rfl
  attributes := rfl
  names := by simp [or_comm]

theorem Applied.resolves {edits : List Edit} {d d' : Draft} (h : Applied edits d d')
    (ref : TypeRef) : d'.resolves ref = d.resolves ref := by
  cases ref <;> simp [Draft.resolves, h.length, h.imports]

/-- Edits of other types leave a type as it is. -/
theorem Applied.isOpen {edits : List Edit} {d d' : Draft} (h : Applied edits d d') {k : Handle}
    {t : TypeInfo} (hk : k ∉ edits.map (·.handle)) (ho : d.IsOpen k t) : d'.IsOpen k t := by
  unfold Draft.IsOpen
  rw [h.others k.index fun e he hi => hk (List.mem_map.mpr ⟨e, he, ?_⟩)]
  · exact ho
  · rcases hk' : e.handle with ⟨i⟩
    rw [hk'] at hi
    exact congrArg Handle.mk hi

theorem Applied.append {first second : List Edit} {d d' d'' : Draft} (h : Applied first d d')
    (h' : Applied second d' d'') (hnodup : ((first ++ second).map (·.handle)).Nodup) :
    Applied (first ++ second) d d'' where
  after := by
    rw [List.map_append, List.nodup_append] at hnodup
    intro e he
    rcases List.mem_append.mp he with he | he
    · refine h'.isOpen (fun hmem => ?_) (h.after e he)
      exact hnodup.2.2 e.handle (List.mem_map_of_mem he) e.handle hmem rfl
    · exact h'.after e he
  others := fun i hi => by
    rw [h'.others i fun e he => hi e (List.mem_append_right _ he),
      h.others i fun e he => hi e (List.mem_append_left _ he)]
  length := h'.length.trans h.length
  imports := h'.imports.trans h.imports
  attributes := h'.attributes.trans h.attributes
  names := fun key => by
    rw [h'.names, h.names]
    simp only [List.mem_append, or_and_right, exists_or, or_assoc]

/-! ## Scripts that make edits -/

/-- The names that edits claim, as they are compared. -/
def claimsOf (edits : List Edit) : List String := edits.flatMap (·.claims)

/-- The names that edits claim are free and differ. -/
def Claimable (d : Draft) (edits : List Edit) : Prop :=
  (claimsOf edits).Nodup ∧ ∀ key ∈ claimsOf edits, key ∉ d.names

theorem claimable_of_none {d : Draft} {edits : List Edit} (h : ∀ e ∈ edits, e.claims = []) :
    Claimable d edits := by
  have hclaims : claimsOf edits = [] := List.flatMap_eq_nil_iff.mpr h
  unfold Claimable
  rw [hclaims]
  exact ⟨.nil, fun _ hkey => nomatch hkey⟩

/-- The script is played to its end, where `done` holds, unless something is bad. -/
def Reaches (bad : Prop) (done : Draft → Prop) (steps : List Step) (d : Draft) : Prop :=
  match play steps d with
  | .ok d' => done d'
  | .error _ => bad

/-- The script makes the edits, unless something is bad. -/
def Plays (bad : Prop) (edits : List Edit) (steps : List Step) (d : Draft) : Prop :=
  Reaches bad (Applied edits d) steps d

variable {bad : Prop} {done between : Draft → Prop} {edits first second : List Edit}
  {steps later : List Step} {d : Draft}

theorem reaches_of_ok {d' : Draft} (h : play steps d = .ok d') (hd : done d') :
    Reaches bad done steps d := by
  unfold Reaches
  rw [h]
  exact hd

theorem Reaches.done_of_ok (h : Reaches bad done steps d) {d' : Draft}
    (hd : play steps d = .ok d') : done d' := by
  unfold Reaches at h
  rwa [hd] at h

theorem Reaches.of_error (h : Reaches bad done steps d) {e : ExportError}
    (hd : play steps d = .error e) : bad := by
  unfold Reaches at h
  rwa [hd] at h

theorem Reaches.imp {done' : Draft → Prop} (h : Reaches bad done steps d)
    (hdone : ∀ d', done d' → done' d') : Reaches bad done' steps d := by
  unfold Reaches at h ⊢
  split at h
  · exact hdone _ h
  · exact h

/-- The rule of sequences. -/
theorem Reaches.append (hfirst : Reaches bad between steps d)
    (hlater : ∀ d', between d' → Reaches bad done later d') :
    Reaches bad done (steps ++ later) d := by
  unfold Reaches
  rw [play_append]
  cases hd : play steps d with
  | error error => exact hfirst.of_error hd
  | ok d' => exact hlater d' (hfirst.done_of_ok hd)

theorem plays_of_ok {d' : Draft} (h : play steps d = .ok d') (ha : Applied edits d d') :
    Plays bad edits steps d := reaches_of_ok h ha

theorem plays_nil : Plays bad [] [] d := applied_nil d

theorem plays_abort (error : ExportError) (hbad : bad) :
    Plays bad edits (.abort error :: later) d := hbad

theorem plays_remark {remark : Remark} (h : Plays bad edits later d) :
    Plays bad edits (.remark remark :: later) d := h

theorem plays_remarks {remarks : List Remark} (h : Plays bad edits later d) :
    Plays bad edits (remarks.map Step.remark ++ later) d := by
  unfold Plays Reaches at h ⊢
  rwa [play_remarks]

theorem Awaits.left (h : Awaits d (first ++ second)) : Awaits d first :=
  fun e he => h e (List.mem_append_left _ he)

theorem Awaits.right {d' : Draft} (h : Awaits d (first ++ second)) (ha : Applied first d d')
    (hnodup : ((first ++ second).map (·.handle)).Nodup) : Awaits d' second := by
  rw [List.map_append, List.nodup_append] at hnodup
  intro e he
  refine ha.isOpen (fun hmem => ?_) (h e (List.mem_append_right _ he))
  exact hnodup.2.2 e.handle hmem e.handle (List.mem_map_of_mem he) rfl

theorem Claimable.left (h : Claimable d (first ++ second)) : Claimable d first := by
  unfold Claimable claimsOf at h ⊢
  rw [List.flatMap_append, List.nodup_append] at h
  exact ⟨h.1.1, fun key hkey => h.2 key (List.mem_append_left _ hkey)⟩

theorem Claimable.right {d' : Draft} (h : Claimable d (first ++ second)) (ha : Applied first d d') :
    Claimable d' second := by
  unfold Claimable claimsOf at h ⊢
  rw [List.flatMap_append, List.nodup_append] at h
  refine ⟨h.1.2.1, fun key hkey hmem => ?_⟩
  rcases (ha.names key).mp hmem with hold | ⟨e, he, hclaim⟩
  · exact h.2 key (List.mem_append_right _ hkey) hold
  · exact h.1.2.2 key (List.mem_flatMap.mpr ⟨e, he, hclaim⟩) key hkey rfl

/-- Two scripts after each other, with edits of different types. -/
theorem Plays.append (hfirst : Plays bad first steps d)
    (hsecond : ∀ d', Applied first d d' → Plays bad second later d')
    (hnodup : ((first ++ second).map (·.handle)).Nodup) :
    Plays bad (first ++ second) (steps ++ later) d :=
  Reaches.append hfirst fun d' ha => (hsecond d' ha).imp fun _ ha' => ha.append ha' hnodup

/-- Two edits of one type after each other are one. -/
theorem Applied.trans {h : Handle} {t t' t'' : TypeInfo} {claims claims' : List String}
    {d' d'' : Draft} (ha : Applied [⟨h, t, t', claims⟩] d d')
    (ha' : Applied [⟨h, t', t'', claims'⟩] d' d'') :
    Applied [⟨h, t, t'', claims ++ claims'⟩] d d'' where
  after := by simpa using ha'.after _ List.mem_cons_self
  others := fun i hi => by
    have hne : h.index ≠ i := hi _ List.mem_cons_self
    rw [ha'.others i (by simpa using hne), ha.others i (by simpa using hne)]
  length := ha'.length.trans ha.length
  imports := ha'.imports.trans ha.imports
  attributes := ha'.attributes.trans ha.attributes
  names := fun key => by
    rw [ha'.names, ha.names]
    simp only [List.mem_singleton, exists_eq_left, List.mem_append, or_assoc]

theorem Plays.trans {h : Handle} {t t' t'' : TypeInfo} {claims claims' : List String}
    (hfirst : Plays bad [⟨h, t, t', claims⟩] steps d)
    (hsecond : ∀ d', Applied [⟨h, t, t', claims⟩] d d' →
      Plays bad [⟨h, t', t'', claims'⟩] later d') :
    Plays bad [⟨h, t, t'', claims ++ claims'⟩] (steps ++ later) d :=
  Reaches.append hfirst fun d' ha => (hsecond d' ha).imp fun _ ha' => ha.trans ha'

/-- No steps are needed for a type that stays as it is. -/
theorem plays_same {h : Handle} {t : TypeInfo} (ho : d.IsOpen h t) :
    Plays bad [⟨h, t, t, []⟩] [] d := by
  refine plays_of_ok rfl ?_
  have ha := applied_setInfo ho t
  rwa [ho.setInfo_self] at ha

/-- **A pass over the types of a library**: each item makes its edits, and the edits of all items are
about different types. -/
theorem plays_flatMap {α : Type} {items : List α} {steps : α → List Step} {edits : α → List Edit}
    (hitems : ∀ a ∈ items, ∀ d', (∀ ref, d'.resolves ref = d.resolves ref) → Awaits d' (edits a) →
      (¬bad → Claimable d' (edits a)) → Plays bad (edits a) (steps a) d')
    (hnodup : ((items.flatMap edits).map (·.handle)).Nodup) (hawaits : Awaits d (items.flatMap edits))
    (hclaims : ¬bad → Claimable d (items.flatMap edits)) :
    Plays bad (items.flatMap edits) (items.flatMap steps) d := by
  induction items generalizing d with
  | nil => exact plays_nil
  | cons a later ih =>
    rw [List.flatMap_cons] at hnodup hawaits hclaims
    rw [List.flatMap_cons, List.flatMap_cons]
    refine Plays.append (hitems a List.mem_cons_self d (fun _ => rfl) hawaits.left
      fun h => (hclaims h).left) (fun d' ha => ?_) hnodup
    refine ih (fun b hb d'' hresolves => ?_) ?_ (hawaits.right ha hnodup)
      fun h => (hclaims h).right ha
    · refine hitems b (List.mem_cons_of_mem _ hb) d'' fun ref => ?_
      rw [hresolves, ha.resolves]
    · rw [List.map_append, List.nodup_append] at hnodup
      exact hnodup.2.1

end Automation.Export
