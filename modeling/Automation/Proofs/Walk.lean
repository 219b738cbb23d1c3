import Automation.Walk
import Mathlib.Data.List.Chain
import Mathlib.Data.List.Nodup
import Mathlib.Tactic.Tauto

/-!
# What a walk meets

A walk follows links without repeating a place, and goes on as far as it can: `prefix_walk` says
that every way along the links through open places, without repetitions, is the beginning of the
walk from its start. Walks only ask which places are open, so they commute with renamings
(`walk_map`). Walks in turn, each of them backwards, have every place after the one that it links to,
except where a walk closes a cycle (`sublist_walks_or_closes`).
-/

namespace Automation

variable {next : Nat → Option Nat} {isOpen : List Nat} {start : Nat}

/-! ## The steps of a walk -/

theorem walk_of_not_mem (h : start ∉ isOpen) : walk next isOpen start = ([], isOpen) := by
  rw [walk, if_neg h]

theorem walk_of_none (h : start ∈ isOpen) (hnext : next start = none) :
    walk next isOpen start = ([start], isOpen.erase start) := by
  rw [walk, if_pos h, hnext]

theorem walk_of_some (h : start ∈ isOpen) {place : Nat} (hnext : next start = some place) :
    walk next isOpen start =
      (start :: (walk next (isOpen.erase start) place).1,
        (walk next (isOpen.erase start) place).2) := by
  rw [walk, if_pos h, hnext]

/-- Induction along a walk: it does not begin, it ends at its start, or it goes on. -/
theorem walk_induction (next : Nat → Option Nat) {motive : List Nat → Nat → Prop}
    (closed : ∀ isOpen start, start ∉ isOpen → motive isOpen start)
    (last : ∀ isOpen start, start ∈ isOpen → next start = none → motive isOpen start)
    (more : ∀ isOpen start place, start ∈ isOpen → next start = some place →
      motive (isOpen.erase start) place → motive isOpen start)
    (isOpen : List Nat) (start : Nat) : motive isOpen start := by
  induction hn : isOpen.length using Nat.strongRecOn generalizing isOpen start with
  | ind n ih =>
    by_cases h : start ∈ isOpen
    · cases hnext : next start with
      | none => exact last isOpen start h hnext
      | some place =>
        have hlt : (isOpen.erase start).length < n := by
          have hpos := List.length_pos_of_mem h
          rw [List.length_erase_of_mem h]
          omega
        exact more isOpen start place h hnext (ih _ hlt _ _ rfl)
    · exact closed isOpen start h

/-! ## Met and left -/

theorem head?_walk : ∀ a ∈ (walk next isOpen start).1.head?, a = start := by
  intro a ha
  by_cases h : start ∈ isOpen
  · cases hnext : next start with
    | none =>
      rw [walk_of_none h hnext] at ha
      simpa [eq_comm] using ha
    | some place =>
      rw [walk_of_some h hnext] at ha
      simpa [eq_comm] using ha
  · rw [walk_of_not_mem h] at ha
    simp at ha

theorem mem_of_mem_walk {a : Nat} (h : a ∈ (walk next isOpen start).1) : a ∈ isOpen := by
  induction isOpen, start using walk_induction next with
  | closed isOpen start hs => simp [walk_of_not_mem hs] at h
  | last isOpen start hs hnext =>
    rw [walk_of_none hs hnext, List.mem_singleton] at h
    exact h ▸ hs
  | more isOpen start place hs hnext ih =>
    rw [walk_of_some hs hnext, List.mem_cons] at h
    rcases h with rfl | h
    · exact hs
    · exact List.mem_of_mem_erase (ih h)

theorem mem_left {a : Nat} (hopen : isOpen.Nodup) :
    a ∈ (walk next isOpen start).2 ↔ a ∈ isOpen ∧ a ∉ (walk next isOpen start).1 := by
  induction isOpen, start using walk_induction next with
  | closed isOpen start hs => simp [walk_of_not_mem hs]
  | last isOpen start hs hnext =>
    simp [walk_of_none hs hnext, hopen.mem_erase_iff, and_comm]
  | more isOpen start place hs hnext ih =>
    rw [walk_of_some hs hnext, ih (hopen.erase start), hopen.mem_erase_iff, List.mem_cons]
    tauto

theorem nodup_left (hopen : isOpen.Nodup) : (walk next isOpen start).2.Nodup := by
  induction isOpen, start using walk_induction next with
  | closed isOpen start hs => rwa [walk_of_not_mem hs]
  | last isOpen start hs hnext =>
    rw [walk_of_none hs hnext]
    exact hopen.erase start
  | more isOpen start place hs hnext ih =>
    rw [walk_of_some hs hnext]
    exact ih (hopen.erase start)

theorem nodup_walk (hopen : isOpen.Nodup) : (walk next isOpen start).1.Nodup := by
  induction isOpen, start using walk_induction next with
  | closed isOpen start hs => simp [walk_of_not_mem hs]
  | last isOpen start hs hnext => simp [walk_of_none hs hnext]
  | more isOpen start place hs hnext ih =>
    rw [walk_of_some hs hnext]
    have hstart : start ∉ (walk next (isOpen.erase start) place).1 := fun h =>
      hopen.not_mem_erase (mem_of_mem_walk h)
    exact List.nodup_cons.mpr ⟨hstart, ih (hopen.erase start)⟩

theorem start_mem_walk (next : Nat → Option Nat) (h : start ∈ isOpen) : start ∈ (walk next isOpen start).1 := by
  cases hnext : next start with
  | none => simp [walk_of_none h hnext]
  | some place => simp [walk_of_some h hnext]

/-! ## The way of a walk -/

/-- A list of places, each of which links to the one after it. -/
def IsWay (next : Nat → Option Nat) (places : List Nat) : Prop :=
  places.IsChain fun a b => next a = some b

theorem isWay_walk : IsWay next (walk next isOpen start).1 := by
  induction isOpen, start using walk_induction next with
  | closed isOpen start hs =>
    rw [walk_of_not_mem hs]
    exact .nil
  | last isOpen start hs hnext =>
    rw [walk_of_none hs hnext]
    exact .singleton start
  | more isOpen start place hs hnext ih =>
    rw [walk_of_some hs hnext]
    refine List.isChain_cons.mpr ⟨fun b hb => ?_, ih⟩
    rw [hnext, head?_walk b hb]

/-- **A walk goes as far as it can**: every way through open places, without repetitions, is the
beginning of the walk from its start. -/
theorem prefix_walk {places : List Nat} (hway : IsWay next places) (hnodup : places.Nodup)
    (hopen : ∀ a ∈ places, a ∈ isOpen) (hstart : ∀ a ∈ places.head?, a = start) :
    places <+: (walk next isOpen start).1 := by
  induction places generalizing isOpen start with
  | nil => exact List.nil_prefix
  | cons a later ih =>
    obtain rfl : a = start := hstart a rfl
    have ha : a ∈ isOpen := hopen a List.mem_cons_self
    obtain ⟨hfirst, hlater⟩ := List.isChain_cons.mp hway
    obtain ⟨hnot, hnodup⟩ := List.nodup_cons.mp hnodup
    cases later with
    | nil =>
      cases hnext : next a with
      | none => simp [walk_of_none ha hnext]
      | some place => simp [walk_of_some ha hnext]
    | cons b rest =>
      rw [walk_of_some ha (hfirst b rfl)]
      refine List.cons_prefix_cons.mpr ⟨rfl, ih hlater hnodup (fun c hc => ?_) fun c hc => ?_⟩
      · have hne : c ≠ a := fun h => hnot (h ▸ hc)
        exact (List.mem_erase_of_ne hne).mpr (hopen c (List.mem_cons_of_mem _ hc))
      · simpa [eq_comm] using hc

/-- A walk goes on from every place that it meets: it leaves none open that one of them links to. -/
theorem not_mem_left_of_next {a b : Nat} (hopen : isOpen.Nodup)
    (ha : a ∈ (walk next isOpen start).1) (hb : next a = some b) :
    b ∉ (walk next isOpen start).2 := by
  induction isOpen, start using walk_induction next with
  | closed isOpen start hs => simp [walk_of_not_mem hs] at ha
  | last isOpen start hs hnext =>
    obtain rfl : a = start := by simpa [walk_of_none hs hnext] using ha
    exact nomatch hnext.symm.trans hb
  | more isOpen start place hs hnext ih =>
    rw [walk_of_some hs hnext] at ha ⊢
    rcases List.mem_cons.mp ha with rfl | ha
    · obtain rfl : place = b := Option.some.inj (hnext.symm.trans hb)
      intro hleft
      obtain ⟨hplace, hnot⟩ := (mem_left (hopen.erase a)).mp hleft
      exact hnot (start_mem_walk next hplace)
    · exact ih (hopen.erase start) ha

/-! ## Renamings -/

/-- A walk commutes with a renaming of the places that it can come to: it only asks which of them
are open. -/
theorem walk_map {next' : Nat → Option Nat} {isOpen' : List Nat} {f : Nat → Nat} {V : Nat → Prop}
    (hinj : ∀ a b, V a → V b → f a = f b → a = b) (hV : ∀ a b, V a → next a = some b → V b)
    (hlink : ∀ a, V a → next' (f a) = (next a).map f) (hopen : isOpen.Nodup)
    (hopen' : isOpen'.Nodup) (hmem : ∀ a, V a → (f a ∈ isOpen' ↔ a ∈ isOpen)) (hs : V start) :
    (walk next' isOpen' (f start)).1 = (walk next isOpen start).1.map f := by
  induction isOpen, start using walk_induction next generalizing isOpen' with
  | closed isOpen start hclosed =>
    rw [walk_of_not_mem hclosed, walk_of_not_mem (mt (hmem start hs).mp hclosed)]
    rfl
  | last isOpen start hstart hnext =>
    have hnext' : next' (f start) = none := by rw [hlink start hs, hnext]; rfl
    rw [walk_of_none hstart hnext, walk_of_none ((hmem start hs).mpr hstart) hnext']
    rfl
  | more isOpen start place hstart hnext ih =>
    have hnext' : next' (f start) = some (f place) := by rw [hlink start hs, hnext]; rfl
    rw [walk_of_some hstart hnext, walk_of_some ((hmem start hs).mpr hstart) hnext']
    refine congrArg (f start :: ·) (ih (hopen.erase start) (hopen'.erase (f start)) ?_
      (hV start place hs hnext))
    intro a ha
    rw [hopen'.mem_erase_iff, hopen.mem_erase_iff, hmem a ha]
    have hne : f a ≠ f start ↔ a ≠ start :=
      not_congr ⟨hinj a start ha hs, fun h => by rw [h]⟩
    rw [hne]

/-! ## Walks in turn -/

variable {starts : List Nat}

theorem walks_cons (later : List Nat) : walks next isOpen (start :: later) =
    (walk next isOpen start).1.reverse ++ walks next (walk next isOpen start).2 later := rfl

theorem mem_of_mem_walks {a : Nat} (hopen : isOpen.Nodup) (h : a ∈ walks next isOpen starts) :
    a ∈ isOpen := by
  induction starts generalizing isOpen with
  | nil => simp [walks] at h
  | cons start later ih =>
    rcases List.mem_append.mp h with h | h
    · exact mem_of_mem_walk (List.mem_reverse.mp h)
    · exact ((mem_left hopen).mp (ih (nodup_left hopen) h)).1

/-- Walks in turn meet every open place that one of them starts from. -/
theorem mem_walks {a : Nat} (hopen : isOpen.Nodup) (hstart : a ∈ starts) (ha : a ∈ isOpen) :
    a ∈ walks next isOpen starts := by
  induction starts generalizing isOpen with
  | nil => simp at hstart
  | cons start later ih =>
    refine List.mem_append.mpr ?_
    by_cases hmet : a ∈ (walk next isOpen start).1
    · exact .inl (List.mem_reverse.mpr hmet)
    · have hleft : a ∈ (walk next isOpen start).2 := (mem_left hopen).mpr ⟨ha, hmet⟩
      rcases List.mem_cons.mp hstart with rfl | hlater
      · exact absurd (start_mem_walk next ha) hmet
      · exact .inr (ih (nodup_left hopen) hlater hleft)

theorem nodup_walks (hopen : isOpen.Nodup) : (walks next isOpen starts).Nodup := by
  induction starts generalizing isOpen with
  | nil => exact .nil
  | cons start later ih =>
    refine List.nodup_append.mpr
      ⟨List.nodup_reverse.mpr (nodup_walk hopen), ih (nodup_left hopen), ?_⟩
    rintro a ha b hb rfl
    have hleft := mem_of_mem_walks (nodup_left hopen) hb
    exact ((mem_left hopen).mp hleft).2 (List.mem_reverse.mp ha)

/-! ## Walks that close cycles -/

/-- A walk that closes a cycle: it ends at `a`, which links back to the place `b` on its way. -/
structure Closes (next : Nat → Option Nat) (isOpen order places : List Nat) (a b : Nat) : Prop where
  isWay : IsWay next places
  mem_open : ∀ c ∈ places, c ∈ isOpen
  last : places.getLast? = some a
  back : b ∈ places
  /-- The other places link to places on the way, and come after them in the order. -/
  others : ∀ c ∈ places, c ≠ a → ∀ d, next c = some d → d ∈ places ∧ [d, c].Sublist order

/-- On a way, what a place links to comes right after it, unless the way ends there. -/
theorem IsWay.sublist_or_last {places : List Nat} (h : IsWay next places) {a b : Nat}
    (ha : a ∈ places) (hnext : next a = some b) :
    [a, b].Sublist places ∨ places.getLast? = some a := by
  induction places with
  | nil => simp at ha
  | cons c later ih =>
    obtain ⟨hfirst, hlater⟩ := List.isChain_cons.mp h
    rcases List.mem_cons.mp ha with rfl | ha
    · cases later with
      | nil => exact .inr rfl
      | cons d rest =>
        obtain rfl : d = b := Option.some.inj ((hfirst d rfl).symm.trans hnext)
        exact .inl (List.cons_sublist_cons.mpr (List.singleton_sublist.mpr List.mem_cons_self))
    · refine (ih hlater ha).imp (fun hsub => hsub.cons c) fun hlast => ?_
      rw [List.getLast?_cons, hlast]
      rfl

theorem Closes.mono {isOpen' order order' places : List Nat} {a b : Nat}
    (h : Closes next isOpen order places a b) (hopen : isOpen ⊆ isOpen')
    (horder : order.Sublist order') : Closes next isOpen' order' places a b where
  isWay := h.isWay
  mem_open c hc := hopen (h.mem_open c hc)
  last := h.last
  back := h.back
  others c hc hne d hd := (h.others c hc hne d hd).imp_right fun hsub => hsub.trans horder

/-- Along one walk, backwards, a place comes after the one that it links to, unless the walk closes a
cycle there. -/
theorem sublist_walk_or_closes {a b : Nat} (hopen : isOpen.Nodup)
    (ha : a ∈ (walk next isOpen start).1) (hnext : next a = some b) (hb : b ∈ isOpen) :
    [b, a].Sublist (walk next isOpen start).1.reverse ∨
      Closes next isOpen (walk next isOpen start).1.reverse (walk next isOpen start).1 a b := by
  refine (isWay_walk.sublist_or_last ha hnext).imp List.Sublist.reverse fun hlast => ?_
  -- The walk ends at `a` with an open link, so it has met what `a` links to.
  have hback : b ∈ (walk next isOpen start).1 := by
    by_contra hnot
    exact not_mem_left_of_next hopen ha hnext ((mem_left hopen).mpr ⟨hb, hnot⟩)
  refine ⟨isWay_walk, fun c => mem_of_mem_walk, hlast, hback, fun c hc hne d hd => ?_⟩
  rcases isWay_walk.sublist_or_last hc hd with hsub | hlast'
  · exact ⟨hsub.subset (by simp), hsub.reverse⟩
  · exact absurd (Option.some.inj (hlast'.symm.trans hlast)) hne

/-- **A place comes after the one that it links to**, unless its walk closes a cycle there. -/
theorem sublist_walks_or_closes {a b : Nat} (hopen : isOpen.Nodup)
    (ha : a ∈ walks next isOpen starts) (hnext : next a = some b) (hb : b ∈ isOpen) :
    [b, a].Sublist (walks next isOpen starts) ∨
      ∃ places, Closes next isOpen (walks next isOpen starts) places a b := by
  induction starts generalizing isOpen with
  | nil => simp [walks] at ha
  | cons start later ih =>
    rw [walks_cons] at ha ⊢
    rcases List.mem_append.mp ha with hmet | hrest
    · exact (sublist_walk_or_closes hopen (List.mem_reverse.mp hmet) hnext hb).imp
        (fun hsub => hsub.trans (List.sublist_append_left _ _)) fun hcloses =>
          ⟨_, hcloses.mono (List.Subset.refl _) (List.sublist_append_left _ _)⟩
    · by_cases hmet : b ∈ (walk next isOpen start).1
      · have hfirst := List.singleton_sublist.mpr (List.mem_reverse.mpr hmet)
        exact .inl (hfirst.append (List.singleton_sublist.mpr hrest))
      · have hleft : (walk next isOpen start).2 ⊆ isOpen := fun c hc => ((mem_left hopen).mp hc).1
        exact (ih (nodup_left hopen) hrest ((mem_left hopen).mpr ⟨hb, hmet⟩)).imp
          (fun hsub => hsub.trans (List.sublist_append_right _ _)) fun ⟨places, hcloses⟩ =>
            ⟨places, hcloses.mono hleft (List.sublist_append_right _ _)⟩

namespace Closes

variable {order places : List Nat} {a b : Nat}

/-- Where a walk closes a cycle, its last link leads back to its end. -/
theorem leadsBack (h : Closes next isOpen order places a b) {r : Nat → Nat → Prop}
    (hr : ∀ c ∈ isOpen, ∀ d ∈ isOpen, next c = some d → r c d) : Relation.ReflTransGen r b a := by
  have hchain : places.IsChain r := by
    refine List.IsChain.imp_of_mem_imp (fun c d hc hd => ?_) h.isWay
    exact hr c (h.mem_open c hc) d (h.mem_open d hd)
  refine hchain.backwards_induction (fun c => Relation.ReflTransGen r c a) places ?_ ?_ b h.back
  · exact fun _ _ hcd hda => hda.head hcd
  · intro hne
    have hlast : places.getLast hne = a :=
      Option.some.inj ((List.getLast?_eq_some_getLast hne).symm.trans h.last)
    rw [hlast]

/-- A walk that closes a cycle goes through all that its last link leads to. -/
theorem mem_of_leads (h : Closes next isOpen order places a b) (hnext : next a = some b) {c : Nat}
    (hc : Relation.ReflTransGen (fun c d => next c = some d) b c) : c ∈ places := by
  induction hc with
  | refl => exact h.back
  | @tail c d _ hcd ih =>
    by_cases hca : c = a
    · obtain rfl : b = d := Option.some.inj (hnext.symm.trans (hca ▸ hcd))
      exact h.back
    · exact (h.others c ih hca d hcd).1

end Closes

/-! ## Walks among some of the places -/

/-- Places that are not open can be left out of the starts. -/
theorem walks_filter_starts {p : Nat → Bool} (hopen : isOpen.Nodup)
    (hclosed : ∀ a ∈ isOpen, p a = true) :
    walks next isOpen (starts.filter p) = walks next isOpen starts := by
  induction starts generalizing isOpen with
  | nil => rfl
  | cons start later ih =>
    have hleft : ∀ a ∈ (walk next isOpen start).2, p a = true := fun a ha =>
      hclosed a ((mem_left hopen).mp ha).1
    cases hp : p start with
    | true =>
      rw [List.filter_cons_of_pos hp, walks_cons, walks_cons, ih (nodup_left hopen) hleft]
    | false =>
      have hnot : start ∉ isOpen := fun hmem => Bool.false_ne_true (hp ▸ hclosed start hmem)
      rw [List.filter_cons_of_neg (by rw [hp]; exact Bool.false_ne_true), ih hopen hclosed,
        walks_cons, walk_of_not_mem hnot]
      rfl

/-- Places without a link, which no link leads to, can be left out of the walks. -/
theorem filter_walks {next' : Nat → Option Nat} {isOpen' starts' : List Nat} {f : Nat → Nat}
    {V : Nat → Prop} {p : Nat → Bool} (hinj : ∀ a b, V a → V b → f a = f b → a = b)
    (hV : ∀ a b, V a → next a = some b → V b)
    (hlink : ∀ a, V a → next' (f a) = (next a).map f) (hpos : ∀ a, V a → p (f a) = true)
    (hneg : ∀ b ∈ starts', p b = false → next' b = none) (hopen : isOpen.Nodup)
    (hopen' : isOpen'.Nodup) (hin : ∀ a ∈ isOpen, V a)
    (hmem : ∀ a, V a → (f a ∈ isOpen' ↔ a ∈ isOpen)) (hstarts : ∀ a ∈ starts, V a)
    (hfilter : starts'.filter p = starts.map f) :
    (walks next' isOpen' starts').filter p = (walks next isOpen starts).map f := by
  induction starts' generalizing isOpen isOpen' starts with
  | nil =>
    obtain rfl := List.map_eq_nil_iff.mp hfilter.symm
    rfl
  | cons start' later' ih =>
    have hneg' : ∀ b ∈ later', p b = false → next' b = none := fun b hb =>
      hneg b (List.mem_cons_of_mem _ hb)
    cases hp : p start' with
    | true =>
      rw [List.filter_cons_of_pos hp] at hfilter
      obtain ⟨start, later, rfl, rfl, hlater⟩ := List.map_eq_cons_iff.mp hfilter.symm
      obtain ⟨hstart, hstarts⟩ := List.forall_mem_cons.mp hstarts
      have hwalk := walk_map hinj hV hlink hopen hopen' hmem hstart
      have hmet : ∀ b ∈ (walk next' isOpen' (f start)).1.reverse, p b = true := by
        intro b hb
        rw [List.mem_reverse, hwalk] at hb
        obtain ⟨a, ha, rfl⟩ := List.mem_map.mp hb
        exact hpos a (hin a (mem_of_mem_walk ha))
      have hleft : ∀ a, V a →
          (f a ∈ (walk next' isOpen' (f start)).2 ↔ a ∈ (walk next isOpen start).2) := by
        intro a ha
        have hmap : f a ∈ (walk next isOpen start).1.map f ↔ a ∈ (walk next isOpen start).1 := by
          refine ⟨fun h => ?_, List.mem_map_of_mem⟩
          obtain ⟨b, hb, hsame⟩ := List.mem_map.mp h
          exact hinj b a (hin b (mem_of_mem_walk hb)) ha hsame ▸ hb
        rw [mem_left hopen', mem_left hopen, hmem a ha, hwalk, hmap]
      rw [walks_cons, walks_cons, List.filter_append, List.filter_eq_self.mpr hmet, List.map_append, List.map_reverse, hwalk]
      refine congrArg _ (ih hneg' (nodup_left hopen) (nodup_left hopen')
        (fun a ha => hin a ((mem_left hopen).mp ha).1) hleft hstarts hlater.symm)
    | false =>
      -- The start has no link, so its walk is over at once and is left out.
      rw [List.filter_cons_of_neg (by rw [hp]; exact Bool.false_ne_true)] at hfilter
      have hnone := hneg start' List.mem_cons_self hp
      have hne : ∀ a, V a → f a ≠ start' := fun a ha hsame =>
        Bool.false_ne_true (hp ▸ hsame ▸ hpos a ha)
      rw [walks_cons]
      by_cases hs : start' ∈ isOpen'
      · rw [walk_of_none hs hnone]
        have hdropped : [start'].reverse.filter p = [] := by simp [hp]
        rw [List.filter_append, hdropped, List.nil_append]
        refine ih hneg' hopen (hopen'.erase start') hin (fun a ha => ?_) hstarts hfilter
        rw [List.mem_erase_of_ne (hne a ha), hmem a ha]
      · rw [walk_of_not_mem hs]
        exact ih hneg' hopen hopen' hin hmem hstarts hfilter

end Automation
