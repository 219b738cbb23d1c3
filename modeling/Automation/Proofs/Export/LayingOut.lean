import Automation.Proofs.Export.Passes
import Automation.Proofs.Library.Layout

/-!
# The layout of a library

The last steps of an export lay the types out, one after the other. `ensures_layouts` says that they
come to their end exactly if nothing is wrong with any of the types, and that in all the drafts in
which a layout was asked for the types are the same.
-/

namespace Automation.Export

open Library

/-- Between the progresses, layouts were asked for in the given drafts; nothing else has changed
but drafts, questions and diagnostics. -/
structure Logs (p q : MemoryProgress) (drafts : List Draft) : Prop where
  references : q.session.references = p.session.references
  generated : q.session.generated = p.session.generated
  drafts : q.session.world.drafts = p.session.world.drafts ++ drafts
  committed : q.session.world.committed = p.session.world.committed

theorem Quiet.logs {p q : MemoryProgress} (h : Quiet p q) : Logs p q [] :=
  ⟨h.references, h.generated, by rw [h.world, List.append_nil], by rw [h.world]⟩

theorem Logs.trans {p q r : MemoryProgress} {drafts drafts' : List Draft} (h : Logs p q drafts)
    (h' : Logs q r drafts') : Logs p r (drafts ++ drafts') :=
  ⟨h'.references.trans h.references, h'.generated.trans h.generated,
    by rw [h'.drafts, h.drafts, List.append_assoc], h'.committed.trans h.committed⟩

/-- The types of the draft are open, and their functions have ids. -/
def Numbered (d : Draft) (handles : List Handle) : Prop :=
  ∀ h ∈ handles, ∃ info, d.IsOpen h info ∧ ∀ f ∈ info.functions, f.desc.memid ≠ MemberId.none

/-- Nothing is wrong with the types of the draft. -/
def Faultless (d : Draft) (handles : List Handle) : Prop :=
  ∀ h ∈ handles, ∀ info, d.IsOpen h info → d.layoutFault? h info = none

/-- All types with these handles are laid out, and no others. -/
def Finished (d d' : Draft) (handles : List Handle) : Prop :=
  ∀ i u, d'.types[i]? = some u → u.laidOut = false → ⟨i⟩ ∉ handles ∧ d.types[i]? = some u

variable {p : MemoryProgress}

theorem isOpen_finish {d : Draft} {h k : Handle} {info : TypeInfo} (hk : k ≠ h) :
    (d.finish h).IsOpen k info ↔ d.IsOpen k info := by
  have hne : h.index ≠ k.index := by
    intro hsame
    cases h
    cases k
    exact hk (congrArg Handle.mk hsame.symm)
  unfold Draft.IsOpen Draft.finish
  rw [List.getElem?_modify_ne _ _ hne]

theorem finished_cons {d d' : Draft} {h : Handle} {later : List Handle}
    (hf : Finished (d.finish h) d' later) : Finished d d' (h :: later) := by
  intro i u hu hopen
  obtain ⟨hnot, hbefore⟩ := hf i u hu hopen
  unfold Draft.finish at hbefore
  by_cases hi : h.index = i
  · subst hi
    rw [List.getElem?_modify_eq] at hbefore
    obtain ⟨v, -, rfl⟩ := Option.map_eq_some_iff.mp hbefore
    exact Bool.noConfusion hopen
  · rw [List.getElem?_modify_ne _ _ hi] at hbefore
    refine ⟨fun hmem => ?_, hbefore⟩
    rcases List.mem_cons.mp hmem with rfl | hmem
    · exact hi rfl
    · exact hnot hmem

theorem ensures_layOut {context : String} {h : Handle} {info : TypeInfo}
    (ho : p.draft.IsOpen h info) (hids : ∀ f ∈ info.functions, f.desc.memid ≠ MemberId.none) :
    Ensures (request watchedMemory context (.layOut h)) p
      (fun _ q => p.draft.layoutFault? h info = none ∧ q.draft = p.draft.finish h ∧
        Logs p q [p.draft])
      fun e q => (∃ error, p.draft.layoutFault? h info = some error ∧ e = .build context error) ∧
        Logs p q [p.draft] := by
  have hanswer : ∀ w, watchedMemory.answer (.layOut h) w p.draft =
      ((p.draft.layOut h).1, { w with drafts := w.drafts ++ [p.draft] }, (p.draft.layOut h).2) :=
    fun _ => rfl
  have hlayout := Draft.layOut_eq ho hids
  refine ensures_request (fun a world draft ha => ?_) fun error world draft ha => ?_
  all_goals
    rw [hanswer, hlayout] at ha
    cases hfault : p.draft.layoutFault? h info with
    | none =>
      rw [hfault] at ha
      obtain ⟨houtcome, rfl, rfl⟩ := by simpa only [Prod.mk.injEq] using ha
      first
        | exact ⟨rfl, rfl, rfl, rfl, rfl, rfl⟩
        | exact Except.noConfusion rfl rfl (heq_of_eq houtcome)
    | some error =>
      rw [hfault] at ha
      obtain ⟨houtcome, rfl, rfl⟩ := by simpa only [Prod.mk.injEq] using ha
      first
        | exact Except.noConfusion rfl rfl (heq_of_eq houtcome)
        | exact ⟨⟨error, rfl, by rw [← Except.error.inj houtcome]⟩, rfl, rfl, rfl, rfl⟩

/-- **The layout of a library**: it comes to its end if nothing is wrong with any type, and is
stopped by the first type with which something is. -/
theorem ensures_layouts {types : List ExportedType} (hopen : Numbered p.draft (types.map (·.handle)))
    (hnodup : (types.map (·.handle)).Nodup) :
    Ensures (perform watchedMemory (types.map layoutStep)) p
      (fun _ q => Faultless p.draft (types.map (·.handle)) ∧
        Finished p.draft q.draft (types.map (·.handle)) ∧ p.draft.SameTypes q.draft ∧
        ∃ drafts, Logs p q drafts ∧ drafts.length = types.length ∧
          ∀ d ∈ drafts, p.draft.SameTypes d)
      fun e q => (∃ context error, e = .build context error) ∧
        ¬Faultless p.draft (types.map (·.handle)) ∧
        ∃ drafts, Logs p q drafts ∧ drafts ≠ [] ∧ ∀ d ∈ drafts, p.draft.SameTypes d := by
  induction types generalizing p with
  | nil =>
    exact ensures_pure ⟨fun _ h => (List.not_mem_nil h).elim,
      fun i u hu _ => ⟨List.not_mem_nil, hu⟩, .refl _, [], (Quiet.refl p).logs, rfl,
      fun _ h => (List.not_mem_nil h).elim⟩
  | cons t later ih =>
    obtain ⟨info, ho, hids⟩ := hopen t.handle List.mem_cons_self
    rw [List.map_cons, List.nodup_cons] at hnodup
    have hother : ∀ k ∈ later.map (·.handle), k ≠ t.handle := fun k hk hsame =>
      hnodup.1 (hsame ▸ hk)
    refine ((ensures_layOut ho hids).imp (fun _ _ h => h) ?_).bind ?_
    · rintro e q ⟨⟨error, hfault, rfl⟩, hlogs⟩
      refine ⟨⟨_, error, rfl⟩, fun hnone => ?_, [p.draft], hlogs, List.cons_ne_nil _ _, ?_⟩
      · have := hnone t.handle List.mem_cons_self info ho
        rw [hfault] at this
        exact Option.noConfusion rfl (heq_of_eq this)
      · rintro d hd
        rw [List.mem_singleton.mp hd]
        exact .refl _
    · rintro _ q ⟨hfault, hdraft, hlogs⟩
      have hsame : p.draft.SameTypes q.draft := hdraft ▸ Draft.sameTypes_finish p.draft t.handle
      have hopen' : Numbered q.draft (later.map (·.handle)) := fun k hk => by
        obtain ⟨info', ho', hids'⟩ := hopen k (List.mem_cons_of_mem _ hk)
        exact ⟨info', hdraft ▸ (isOpen_finish (hother k hk)).mpr ho', hids'⟩
      -- What is wrong with a later type is the same before and after the first one is laid out.
      have hfaults : Faultless q.draft (later.map (·.handle)) ↔
          Faultless p.draft (later.map (·.handle)) := by
        refine forall_congr' fun k => forall_congr' fun hk => forall_congr' fun info' => ?_
        rw [hsame.layoutFault?, hdraft, isOpen_finish (hother k hk)]
      refine (ih hopen' hnodup.2).imp ?_ ?_
      · rintro _ r ⟨hnone, hfinished, hsame', drafts, hlogs', hlength, hdrafts⟩
        refine ⟨?_, finished_cons (hdraft ▸ hfinished), hsame.trans hsame', p.draft :: drafts,
          hlogs.trans hlogs', by rw [List.length_cons, hlength, List.length_cons], ?_⟩
        · refine List.forall_mem_cons.mpr ⟨fun info' ho' => ?_, hfaults.mp hnone⟩
          obtain rfl : info = info' :=
            congrArg DraftType.info (Option.some.inj (ho.symm.trans ho'))
          exact hfault
        · refine List.forall_mem_cons.mpr ⟨.refl _, fun d hd => hsame.trans (hdrafts d hd)⟩
      · rintro e r ⟨hbuild, hfault', drafts, hlogs', -, hdrafts⟩
        refine ⟨hbuild, fun hnone => hfault' (hfaults.mpr ?_), p.draft :: drafts,
          hlogs.trans hlogs', List.cons_ne_nil _ _, ?_⟩
        · exact fun k hk => hnone k (List.mem_cons_of_mem _ hk)
        · refine List.forall_mem_cons.mpr ⟨.refl _, fun d hd => hsame.trans (hdrafts d hd)⟩

end Automation.Export
