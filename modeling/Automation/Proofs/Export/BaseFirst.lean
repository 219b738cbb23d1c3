import Automation.Proofs.Export.Passes
import Automation.Proofs.Library.Lineage
import Automation.Proofs.Tour

/-!
# Bases first

Interfaces are filled in an order that has each of them once and bases before what derives from them.
`baseFirst_ordered` says so of every list of types with distinct ids, wherever their bases stand and
whether or not they form cycles. A cycle is cut at one of its interfaces, and nothing else is cut
(`IsBaseFirst.cut`).
-/

namespace Automation.Export

open Library Source Relation

/-- One interface derives from another: that is its base within the unit. -/
def DerivesFrom (links : List Link) (a b : Nat) : Prop :=
  ∃ p q, links[a]? = some p ∧ links[b]? = some q ∧ p.isInterface = true ∧ q.isInterface = true ∧
    p.base = some q.id

/-- The chain of bases of an interface is free of cycles: nothing on it derives from itself. -/
def HasAcyclicChain (links : List Link) (a : Nat) : Prop :=
  ∀ b, ReflTransGen (DerivesFrom links) a b → ¬TransGen (DerivesFrom links) b b

/-- The order cuts an interface off from its base, which does not come before it. -/
def CutsOff (links : List Link) (order : List Nat) (a : Nat) : Prop :=
  ∃ b, DerivesFrom links a b ∧ ¬Before order b a

/-- An order of the interfaces, bases first. -/
structure IsBaseFirst (links : List Link) (order : List Nat) : Prop where
  /-- Every interface is in the order once, and nothing else is. -/
  count : ∀ a, order.count a = if links[a]?.any (·.isInterface) then 1 else 0
  /-- Bases come first, where no cycle prevents that. -/
  before : ∀ a b, DerivesFrom links a b → HasAcyclicChain links a → Before order b a
  /-- An interface that is cut off from its base is on a cycle, and the only one of it that is. -/
  cut : ∀ a, CutsOff links order a → TransGen (DerivesFrom links) a a ∧
    ∀ c, CutsOff links order c → TransGen (DerivesFrom links) a c → c = a

variable {links : List Link} {a b : Nat}

/-- A chain along which a rank goes down is free of cycles. -/
theorem hasAcyclicChain_of_rank {p : Nat → Prop} {rank : Nat → Nat}
    (hdown : ∀ a, p a → ∀ b, DerivesFrom links a b → p b ∧ rank b < rank a) (ha : p a) :
    HasAcyclicChain links a := by
  intro b hb hcycle
  have hpb : p b := by
    clear hcycle
    induction hb with
    | refl => exact ha
    | tail _ hstep ih => exact (hdown _ ih _ hstep).1
  have hlt : ∀ c, TransGen (DerivesFrom links) b c → p c ∧ rank c < rank b := by
    intro c hc
    induction hc with
    | single hstep => exact hdown b hpb _ hstep
    | tail _ hstep ih =>
      obtain ⟨hpc, hlt⟩ := hdown _ ih.1 _ hstep
      exact ⟨hpc, hlt.trans ih.2⟩
  exact Nat.lt_irrefl _ (hlt b hcycle).2

/-- The walks follow the bases. -/
theorem derivesFrom_of_nextBase (ha : a ∈ interfacePlaces links) (hb : b ∈ interfacePlaces links)
    (hnext : nextBase links a = some b) : DerivesFrom links a b := by
  obtain ⟨p, hp, hpi⟩ := mem_interfacePlaces_iff.mp ha
  obtain ⟨q, hq, hqi⟩ := mem_interfacePlaces_iff.mp hb
  refine ⟨p, q, hp, hq, hpi, hqi, ?_⟩
  unfold nextBase at hnext
  rw [hp, Option.bind_some] at hnext
  obtain ⟨id, hid, hfound⟩ := Option.bind_eq_some_iff.mp hnext
  obtain ⟨hlt, hsame, -⟩ := List.findIdx?_eq_some_iff_getElem.mp hfound
  obtain ⟨_, rfl⟩ := List.getElem?_eq_some_iff.mp hq
  rw [hid, beq_iff_eq.mp hsame]

theorem DerivesFrom.mem (h : DerivesFrom links a b) :
    a ∈ interfacePlaces links ∧ b ∈ interfacePlaces links := by
  obtain ⟨p, q, hp, hq, hpi, hqi, -⟩ := h
  exact ⟨mem_interfacePlaces_iff.mpr ⟨p, hp, hpi⟩, mem_interfacePlaces_iff.mpr ⟨q, hq, hqi⟩⟩

/-- Where ids are distinct, the walks follow every base. -/
theorem DerivesFrom.nextBase_eq (h : DerivesFrom links a b) (hids : (links.map (·.id)).Nodup) :
    nextBase links a = some b := by
  obtain ⟨p, q, hp, hq, -, -, hbase⟩ := h
  obtain ⟨hlt, rfl⟩ := List.getElem?_eq_some_iff.mp hq
  unfold nextBase
  rw [hp, Option.bind_some, hbase, Option.bind_some, List.findIdx?_eq_some_iff_getElem]
  refine ⟨hlt, beq_self_eq_true _, fun j hj hsame => ?_⟩
  have hget := @List.Nodup.getElem_inj_iff _ _ hids j (by simpa using hj.trans hlt) b
    (by simpa using hlt)
  exact Nat.ne_of_lt hj (hget.mp (by simpa using hsame))

/-- Where an interface is cut off from its base, the walks have cut a cycle. -/
theorem closes_of_not_before (hids : (links.map (·.id)).Nodup) (h : DerivesFrom links a b)
    (hcut : ¬Before (baseFirst links) b a) : ∃ places,
      Closes (nextBase links) (interfacePlaces links) (baseFirst links) places a b := by
  obtain ⟨ha, hb⟩ := h.mem
  rcases sublist_walks_or_closes nodup_interfacePlaces (mem_baseFirst.mpr ha) (h.nextBase_eq hids) hb
    with hsub | hcloses
  · exact (hcut (before_of_sublist hsub nodup_baseFirst)).elim
  · exact hcloses

theorem count_baseFirst (links : List Link) (a : Nat) :
    (baseFirst links).count a = if links[a]?.any (·.isInterface) then 1 else 0 := by
  have hmem : a ∈ baseFirst links ↔ links[a]?.any (·.isInterface) = true := by
    rw [mem_baseFirst, mem_interfacePlaces_iff]
    cases links[a]? <;> simp
  rw [nodup_baseFirst.count]
  exact if_congr hmem rfl rfl

/-- An interface that is cut off from its base derives from itself. -/
theorem derives_of_cutsOff (hids : (links.map (·.id)).Nodup)
    (h : CutsOff links (baseFirst links) a) : TransGen (DerivesFrom links) a a := by
  obtain ⟨b, hab, hcut⟩ := h
  obtain ⟨places, hcloses⟩ := closes_of_not_before hids hab hcut
  exact TransGen.head' hab
    (hcloses.leadsBack fun c hc d hd hcd => derivesFrom_of_nextBase hc hd hcd)

/-- A cycle is cut once. -/
theorem eq_of_cutsOff (hids : (links.map (·.id)).Nodup)
    (ha : CutsOff links (baseFirst links) a) {c : Nat}
    (hc : CutsOff links (baseFirst links) c) (hac : TransGen (DerivesFrom links) a c) : c = a := by
  obtain ⟨b, hab, hcut⟩ := ha
  obtain ⟨places, hcloses⟩ := closes_of_not_before hids hab hcut
  have hlead : ReflTransGen (fun c d => nextBase links c = some d) b c := by
    obtain ⟨b', hab', hbc⟩ := TransGen.head'_iff.mp hac
    obtain rfl : b = b' :=
      Option.some.inj ((hab.nextBase_eq hids).symm.trans (hab'.nextBase_eq hids))
    exact ReflTransGen.mono (fun x y hxy => hxy.nextBase_eq hids) b c hbc
  have hmem := hcloses.mem_of_leads (hab.nextBase_eq hids) hlead
  obtain ⟨d, hcd, hearly⟩ := hc
  by_contra hne
  have hsub := (hcloses.others c hmem hne d (hcd.nextBase_eq hids)).2
  exact hearly (before_of_sublist hsub nodup_baseFirst)

/-- **The interfaces are filled bases first.** The tour along the bases ends wherever they lead, with
an order that has each interface once, bases first, and cuts each cycle once. -/
theorem baseFirst_ordered {links : List Link} (hids : (links.map (·.id)).Nodup) :
    (∀ turns ≥ 2 * links.length,
      (Tour.turn (nextBase links) (interfacePlaces links))^[turns]
          (Tour.setOut (List.range links.length)) = Tour.ended (baseFirst links)) ∧
    IsBaseFirst links (baseFirst links) := by
  refine ⟨fun turns hturns => Tour.iterate_turn_setOut nodup_interfacePlaces ?_, ?_⟩
  · have hlength := (baseFirst_subperm links).length_le
    rw [List.length_range] at hlength ⊢
    exact (Nat.add_le_add_right hlength _).trans (by omega)
  · exact {
      count := count_baseFirst links
      before := fun a b hab hchain => by
        by_contra hcut
        exact hchain a .refl (derives_of_cutsOff hids ⟨b, hab, hcut⟩)
      cut := fun a ha => ⟨derives_of_cutsOff hids ha, fun c hc => eq_of_cutsOff hids ha hc⟩ }

/-- Bases after and before what derives from them, of themselves and on a cycle; and a record. -/
def tangle : List Link :=
  [⟨10, true, some 11⟩, ⟨11, true, none⟩, ⟨12, true, some 12⟩, ⟨13, true, some 14⟩,
    ⟨14, true, some 13⟩, ⟨15, true, some 13⟩, ⟨16, false, none⟩, ⟨17, true, some 10⟩]

theorem tangle_ordered : (tangle.map (·.id)).Nodup ∧
    baseFirst tangle = [1, 0, 2, 4, 3, 5, 7] ∧
    (HasAcyclicChain tangle 7 ∧ Before (baseFirst tangle) 0 7) ∧
    CutsOff tangle (baseFirst tangle) 4 ∧ TransGen (DerivesFrom tangle) 4 4 := by
  have hids : (tangle.map (·.id)).Nodup := by decide
  have hordered := (baseFirst_ordered hids).2
  have horder : baseFirst tangle = [1, 0, 2, 4, 3, 5, 7] := by decide +kernel
  -- The chain is 7, 0, 1: along it, places go down in the opposite list.
  have hdown : ∀ a ∈ [1, 0, 7], ∀ b ∈ nextBase tangle a,
      b ∈ [1, 0, 7] ∧ [1, 0, 7].idxOf b < [1, 0, 7].idxOf a := by decide
  have hchain : HasAcyclicChain tangle 7 :=
    hasAcyclicChain_of_rank (fun a ha b hab => hdown a ha b (hab.nextBase_eq hids)) (by decide)
  have hcut : CutsOff tangle (baseFirst tangle) 4 := by
    refine ⟨3, ⟨_, _, rfl, rfl, rfl, rfl, rfl⟩, ?_⟩
    rw [horder]
    unfold Before
    decide
  exact ⟨hids, horder, ⟨hchain, hordered.before 7 0 ⟨_, _, rfl, rfl, rfl, rfl, rfl⟩ hchain⟩, hcut,
    (hordered.cut 4 hcut).1⟩

end Automation.Export
