import Mathlib.Data.List.Nodup
import Targeting.Audience.Recount
import Targeting.Proofs.Agreement

/-!
Whose rows a recount changes. It only ever replaces a segment of its merchant by the same segment
with other figures, so that in a store that keeps its keys every other row stays as it was, and
stores that agree on the merchant go on to agree.
-/

namespace Targeting

attribute [local irreducible] Condition.formula

namespace Store

/-- The segments with an id all belong to a merchant. -/
def Owns (store : Store) (merchantId id : String) : Prop :=
  ∀ g ∈ store.segments, g.id = id → g.merchantId = merchantId

/-- Of two stores, the second is the first but for segments of a merchant. -/
structure KeepsOthers (merchantId : String) (before after : Store) : Prop where
  merchants : after.merchants = before.merchants
  subscribers : after.subscribers = before.subscribers
  segments : after.segments.filter (·.merchantId != merchantId) =
    before.segments.filter (·.merchantId != merchantId)
  rows : after.conditionRows = before.conditionRows
  campaigns : after.campaigns = before.campaigns
  links : after.links = before.links

theorem KeepsOthers.refl (merchantId : String) (store : Store) :
    store.KeepsOthers merchantId store := ⟨rfl, rfl, rfl, rfl, rfl, rfl⟩

/-- A store that keeps its keys has one segment with an id, and its merchant owns the id. -/
theorem owns_of_mem {store : Store} {g : Segment} (hkeys : store.WellKeyed .segments)
    (hg : g ∈ store.segments) : store.Owns g.merchantId g.id := by
  intro other hother hid
  have hnodup : (store.segments.map (·.id)).Nodup := hkeys.1
  rw [List.inj_on_of_nodup_map hnodup hother hg hid]

section PutSegment

variable {store : Store} {merchantId : String} {g : Segment}

theorem segments_putSegment (store : Store) (g : Segment) :
    (store.putSegment g).segments =
      store.segments.map fun old => if old.id == g.id then g else old := rfl

theorem ids_putSegment (store : Store) (g : Segment) :
    (store.putSegment g).ids .segments = store.ids .segments := by
  simp only [ids, segments_putSegment, List.map_map]
  refine List.map_congr_left fun old _ => ?_
  by_cases hid : old.id = g.id <;> simp [hid]

theorem WellKeyed.putSegment (h : store.WellKeyed .segments) (g : Segment) :
    (store.putSegment g).WellKeyed .segments := by
  refine ⟨?_, List.nodup_nil⟩
  rw [ids_putSegment]
  exact h.1

theorem Owns.putSegment {id : String} (howns : store.Owns merchantId id)
    (hg : g.merchantId = merchantId) : (store.putSegment g).Owns merchantId id := by
  intro new hnew hid
  rw [segments_putSegment, List.mem_map] at hnew
  obtain ⟨old, hold, rfl⟩ := hnew
  by_cases hsame : old.id = g.id
  · simp [hsame, hg]
  · simp only [beq_iff_eq, hsame, if_false] at hid ⊢
    exact howns old hold hid

/-- A filter that takes the replaced segments as it takes the new one commutes with the
replacement. -/
theorem filter_segments_putSegment {p : Segment → Bool}
    (hp : ∀ old ∈ store.segments, old.id = g.id → p old = p g) :
    (store.putSegment g).segments.filter p =
      (store.segments.filter p).map fun old => if old.id == g.id then g else old := by
  rw [segments_putSegment, List.filter_map]
  congr 1
  refine List.filter_congr fun old hold => ?_
  by_cases hsame : old.id = g.id
  · simp [hsame, hp old hold hsame]
  · simp [hsame]

/-- A merchant that owns the id of its segment leaves the rows of the others alone. -/
theorem keepsOthers_putSegment (howns : store.Owns merchantId g.id)
    (hg : g.merchantId = merchantId) : store.KeepsOthers merchantId (store.putSegment g) where
  merchants := rfl
  subscribers := rfl
  segments := by
    rw [filter_segments_putSegment fun old hold hid => by rw [howns old hold hid, hg]]
    refine (List.map_congr_left fun old hold => ?_).trans (List.map_id _)
    rw [List.mem_filter] at hold
    have hother : old.merchantId ≠ merchantId := by simpa using hold.2
    have hid : old.id ≠ g.id := fun hid => hother (howns old hold.1 hid)
    simp [hid]
  rows := rfl
  campaigns := rfl
  links := rfl

end PutSegment

theorem KeepsOthers.trans {merchantId : String} {a b c : Store}
    (hab : a.KeepsOthers merchantId b) (hbc : b.KeepsOthers merchantId c) :
    a.KeepsOthers merchantId c where
  merchants := hbc.merchants.trans hab.merchants
  subscribers := hbc.subscribers.trans hab.subscribers
  segments := hbc.segments.trans hab.segments
  rows := hbc.rows.trans hab.rows
  campaigns := hbc.campaigns.trans hab.campaigns
  links := hbc.links.trans hab.links

/-- Stores that agree on a merchant still do once each has put the same segment of its. -/
theorem AgreeOn.putSegment {merchantId : String} {a b : Store} {g : Segment}
    (h : a.AgreeOn merchantId b) (ha : a.Owns merchantId g.id) (hb : b.Owns merchantId g.id)
    (hg : g.merchantId = merchantId) : (a.putSegment g).AgreeOn merchantId (b.putSegment g) where
  merchants := h.merchants
  subscribers := h.subscribers
  segments := by
    rw [filter_segments_putSegment fun old hold hid => by rw [ha old hold hid, hg],
      filter_segments_putSegment fun old hold hid => by rw [hb old hold hid, hg], h.segments]
  rows new hnew hmerchant := by
    rw [segments_putSegment, List.mem_map] at hnew
    obtain ⟨old, hold, rfl⟩ := hnew
    by_cases hid : old.id = g.id
    · have hown := h.rows old hold (ha old hold hid)
      simp only [hid, beq_self_eq_true, if_true] at hown ⊢
      exact hown
    · simp only [beq_iff_eq, hid, if_false] at hmerchant ⊢
      exact h.rows old hold hmerchant
  campaigns := h.campaigns
  links := h.links

/-- What stays true of two stores while they are worked on for a merchant: they agree on it, they
keep their keys, and each is what it was before but for segments of the merchant. -/
structure Alike (merchantId : String) (before other a b : Store) : Prop where
  agree : a.AgreeOn merchantId b
  keys : a.WellKeyed .segments
  otherKeys : b.WellKeyed .segments
  kept : before.KeepsOthers merchantId a
  keptOther : other.KeepsOthers merchantId b

theorem Alike.start {merchantId : String} {a b : Store} (hkeys : a.WellKeyed .segments)
    (hotherKeys : b.WellKeyed .segments) (hagree : a.AgreeOn merchantId b) :
    Alike merchantId a b a b :=
  ⟨hagree, hkeys, hotherKeys, .refl _ _, .refl _ _⟩

theorem Alike.trans {merchantId : String} {before other a b after otherAfter : Store}
    (h : Alike merchantId before other a b) (hnext : Alike merchantId a b after otherAfter) :
    Alike merchantId before other after otherAfter where
  agree := hnext.agree
  keys := hnext.keys
  otherKeys := hnext.otherKeys
  kept := h.kept.trans hnext.kept
  keptOther := h.keptOther.trans hnext.keptOther

/-- The same while segments are put: the merchant owns the ids of all that are to be put. -/
structure PutsOwn (merchantId : String) (ids : List String) (before other a b : Store) : Prop
    extends Alike merchantId before other a b where
  owned : ∀ id ∈ ids, a.Owns merchantId id ∧ b.Owns merchantId id

theorem PutsOwn.put {merchantId : String} {ids : List String} {before other a b : Store}
    (h : PutsOwn merchantId ids before other a b) {g : Segment} (hid : g.id ∈ ids)
    (hg : g.merchantId = merchantId) :
    PutsOwn merchantId ids before other (a.putSegment g) (b.putSegment g) := by
  obtain ⟨ha, hb⟩ := h.owned g.id hid
  have hnext : Alike merchantId a b (a.putSegment g) (b.putSegment g) :=
    ⟨h.agree.putSegment ha hb hg, h.keys.putSegment g, h.otherKeys.putSegment g,
      keepsOthers_putSegment ha hg, keepsOthers_putSegment hb hg⟩
  refine ⟨h.toAlike.trans hnext, ?_⟩
  intro id hmem
  obtain ⟨hida, hidb⟩ := h.owned id hmem
  exact ⟨hida.putSegment hg, hidb.putSegment hg⟩

end Store

namespace RecountState

/-- Two recounts hold back alike, and what each has left lasting and current is related. -/
structure Related (R : Store → Store → Prop) (r t : RecountState) : Prop where
  held : r.isHeld = t.isHeld
  lasting : R r.lasting t.lasting
  current : R r.current t.current

variable {R : Store → Store → Prop} {r t : RecountState}

theorem Related.put {g : Segment} (h : Related R r t)
    (hput : ∀ a b, R a b → R (a.putSegment g) (b.putSegment g)) :
    Related R (r.put g) (t.put g) := by
  have hcurrent := hput _ _ h.current
  refine ⟨h.held, ?_, hcurrent⟩
  cases hheld : r.isHeld with
  | true => simpa [RecountState.put, hheld, ← h.held] using h.lasting
  | false => simpa [RecountState.put, hheld, ← h.held] using hcurrent

theorem Related.hold (h : Related R r t) : Related R r.hold t.hold := ⟨rfl, h.lasting, h.current⟩

end RecountState

namespace Session

/-- Recounts that count alike find the same, and whatever relates the stores before them and is
kept by putting the same segment into both relates the stores after them. -/
theorem recountEach_related {R : Store → Store → Prop} {s t : Session} (now : Moment)
    (work : List (Segment × List ConditionRow)) (hmerchant : t.merchantId = s.merchantId)
    (hcount : ∀ p ∈ work, t.countWithin p.1.id (s.predicateOf now p.2) =
      s.countWithin p.1.id (s.predicateOf now p.2))
    (hput : ∀ p ∈ work, ∀ n a b, R a b →
      R (a.putSegment (recounted now p.1 p.2 n)) (b.putSegment (recounted now p.1 p.2 n)))
    {r r' : RecountState} (hr : RecountState.Related R r r') :
    RecountState.Related R (s.recountEach now r work).1 (t.recountEach now r' work).1 ∧
      (t.recountEach now r' work).2 = (s.recountEach now r work).2 := by
  have hpredicate (rows : List ConditionRow) : t.predicateOf now rows = s.predicateOf now rows := by
    rw [predicateOf, predicateOf, hmerchant]
  have hevents (g : Segment) (rows : List ConditionRow) :
      t.rowEvents now g rows = s.rowEvents now g rows := by
    rw [rowEvents, rowEvents, hpredicate]
  induction work generalizing r r' with
  | nil => exact ⟨hr, rfl⟩
  | cons p rest ih =>
      obtain ⟨g, rows⟩ := p
      have hcounted := hcount (g, rows) List.mem_cons_self
      have hrest {q q' : RecountState} (hq : RecountState.Related R q q') :=
        ih (fun p hp => hcount p (List.mem_cons_of_mem _ hp))
          (fun p hp => hput p (List.mem_cons_of_mem _ hp)) hq
      rw [recountEach, recountEach, hpredicate, hevents, hcounted]
      cases (s.countWithin g.id (s.predicateOf now rows)).outcome with
      | ok n =>
          obtain ⟨hstate, hfound⟩ := hrest (hr.put (hput (g, rows) List.mem_cons_self n))
          exact ⟨hstate, by simp only [hfound]⟩
      | error f =>
          dsimp only
          by_cases hf : f.isOfStore = true
          · obtain ⟨hstate, hfound⟩ := hrest hr.hold
            rw [if_pos hf, if_pos hf, hfound]
            exact ⟨hstate, rfl⟩
          · rw [if_neg hf, if_neg hf]
            exact ⟨hr, rfl⟩

end Session

end Targeting
