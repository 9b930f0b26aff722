import Targeting.Proofs.Display
import Targeting.Proofs.Figures
import Targeting.Proofs.Interruption

/-!
Histories: sessions and the service at work on one store, for any merchants, in any order. Whatever
happens in the course of a history, nothing changes but the figures of live segments whose merchants
had them counted, and what is answered by everything else is what would have been answered if nobody
had.
-/

namespace Targeting

attribute [local irreducible] Condition.formula

theorem forall₂_trans {α : Type} {R : α → α → Prop} (hR : ∀ x y z, R x y → R y z → R x z)
    {xs ys zs : List α} (hxy : List.Forall₂ R xs ys) (hyz : List.Forall₂ R ys zs) :
    List.Forall₂ R xs zs := by
  induction hxy generalizing zs with
  | nil =>
      cases hyz
      exact .nil
  | cons hhead _ ih =>
      cases hyz with
      | cons hnext htail => exact .cons (hR _ _ _ hhead hnext) (ih htail)

/-- A segment of before and of afterwards: the same beside its figures, and in these as well unless
it is a live segment of one of the merchants. -/
structure Segment.Refreshes (merchants : String → Prop) (g kept : Segment) : Prop where
  bare : kept.bare = g.bare
  figures : kept = g ∨ g.isActive = true ∧ g.deletedAt = none ∧ merchants g.merchantId

theorem Segment.Refreshes.trans {merchants : String → Prop} {g kept last : Segment}
    (h : g.Refreshes merchants kept) (hnext : kept.Refreshes merchants last) :
    g.Refreshes merchants last := by
  refine ⟨hnext.bare.trans h.bare, ?_⟩
  rcases h.figures with rfl | hlive
  · exact hnext.figures
  · exact .inr hlive

namespace Store

/-- Of two stores, the second is the first but for figures of live segments of some merchants. -/
structure Refreshes (merchants : String → Prop) (before after : Store) : Prop where
  segments : List.Forall₂ (Segment.Refreshes merchants) before.segments after.segments
  frame : after = { before with segments := after.segments }

namespace Refreshes

variable {merchants : String → Prop} {a b c : Store}

theorem refl (merchants : String → Prop) (store : Store) : store.Refreshes merchants store :=
  ⟨List.forall₂_same.mpr fun _ _ => ⟨rfl, .inl rfl⟩, rfl⟩

theorem trans (hab : a.Refreshes merchants b) (hbc : b.Refreshes merchants c) :
    a.Refreshes merchants c := by
  refine ⟨forall₂_trans (fun _ _ _ => .trans) hab.segments hbc.segments, ?_⟩
  rw [hbc.frame, hab.frame]

theorem mono {others : String → Prop} (h : a.Refreshes merchants b)
    (hothers : ∀ m, merchants m → others m) : a.Refreshes others b := by
  refine ⟨h.segments.imp fun g kept hkept => ⟨hkept.bare, ?_⟩, h.frame⟩
  rcases hkept.figures with hsame | ⟨hactive, hdeleted, hmerchant⟩
  · exact .inl hsame
  · exact .inr ⟨hactive, hdeleted, hothers _ hmerchant⟩

theorem bare_eq (h : a.Refreshes merchants b) : b.bare = a.bare := by
  have hsegments : b.segments.map Segment.bare = a.segments.map Segment.bare := by
    rw [← List.forall₂_eq_eq_eq, List.forall₂_map_left_iff, List.forall₂_map_right_iff]
    exact h.segments.flip.imp fun _ _ hkept => hkept.bare
  have hframe := h.frame
  unfold bare
  rw [hsegments, hframe]

theorem keys (h : a.Refreshes merchants b) (hkeys : a.WellKeyed .segments) :
    b.WellKeyed .segments := by
  refine ⟨?_, List.nodup_nil⟩
  rw [← ids_bare, h.bare_eq, ids_bare]
  exact hkeys.1

end Refreshes

end Store

namespace Session

variable {s : Session} {now : Moment}

theorem refreshes_refresh {done : List Segment} (hdone : done ⊆ s.liveSegments) :
    s.database.store.Refreshes (· = s.merchantId) (s.refresh now done) := by
  refine ⟨?_, rfl⟩
  unfold refresh
  rw [List.forall₂_map_right_iff, List.forall₂_same]
  intro g _
  split
  · rename_i hmem
    have hlive := (mem_liveSegments_iff.mp (hdone hmem)).2
    simp only [isLive, Bool.and_eq_true, beq_iff_eq, Option.isNone_iff_eq_none] at hlive
    obtain ⟨⟨hmerchant, hdeleted⟩, hactive⟩ := hlive
    have hbare : (s.refreshed now g).bare = g.bare := by
      unfold refreshed
      cases s.counted now g <;> rfl
    exact ⟨hbare, .inr ⟨hactive, hdeleted, hmerchant⟩⟩
  · exact ⟨rfl, .inl rfl⟩

/-- However a recount goes, it changes figures of live segments of its merchant only. -/
theorem refreshes_recount (s : Session) (hkeys : s.database.store.WellKeyed .segments) :
    s.database.store.Refreshes (· = s.merchantId) s.recount.1 := by
  cases s.course hkeys with
  | unbegun _ _ hstore _ =>
      rw [hstore]
      exact .refl _ _
  | finished now _ _ hstore _ =>
      rw [hstore]
      exact refreshes_refresh (List.Subset.refl _)
  | interrupted now _ _ _ _ _ hstore _ =>
      rw [hstore]
      exact refreshes_refresh (List.takeWhile_subset _)

end Session

namespace Http.Service

/-- A request that gets to a recount changes figures of live segments of its merchant only. -/
theorem refreshes_handle (s : Service) (hkeys : s.database.store.WellKeyed .segments)
    (r : Request) {merchantId : String} (h : s.recounter? r = some merchantId) :
    s.database.store.Refreshes (· = merchantId) (s.handle r).1 := by
  unfold recounter? at h
  dsimp only at h
  split at h
  · rename_i hdestination
    obtain ⟨m, hm, rfl⟩ := Option.map_eq_some_iff.mp h
    have hfound : (s.merchant r).2 = .ok m := by
      cases hmerchant : (s.merchant r).2 with
      | error trouble => simp [hmerchant, Except.toOption] at hm
      | ok found => simpa [hmerchant, Except.toOption] using hm
    have hrun : (s.run r .recalculate).store = (s.session m.id s.clock).recount.1 := by
      unfold run
      simp only [isOpen, readsBody, Bool.false_eq_true, if_false, hfound]
      rfl
    have hrecount := (s.session m.id s.clock).refreshes_recount hkeys
    unfold handle
    cases announcement? r with
    | some announced => exact .refl _ _
    | none =>
        simp only [innerReply, hdestination, hrun]
        exact hrecount
  · cases h

theorem recounter?_bare (s : Service) (r : Request) : s.bare.recounter? r = s.recounter? r := by
  unfold recounter?
  rw [merchant_bare]

end Http.Service

/-- Something that is done with a store: a session is asked for something, or the service answers a
request. Faults, settings and clocks are those of the act; the rows are those that are there when
its turn comes. -/
inductive Act where
  | operation (s : Session) (op : Operation)
  | request (s : Http.Service) (r : Http.Request)

namespace Act

def Answer : Act → Type
  | .operation _ op => Traced op.Answer
  | .request _ _ => List Event × Http.Response

def run (store : Store) : (a : Act) → Store × a.Answer
  | .operation s op => (s.withStore store).perform op
  | .request s r => (s.withStore store).handle r

/-- The merchant whose segments an act has counted anew. -/
def recounter? (store : Store) : Act → Option String
  | .operation s .recount => some s.merchantId
  | .operation _ _ => none
  | .request s r => (s.withStore store).recounter? r

variable {store other : Store} {a : Act}

theorem recounter?_eq (hbare : store.bare = other.bare) (a : Act) :
    a.recounter? store = a.recounter? other := by
  cases a with
  | operation s op => cases op <;> rfl
  | request s r =>
      calc (s.withStore store).recounter? r
          = (s.withStore store.bare).recounter? r := ((s.withStore store).recounter?_bare r).symm
        _ = (s.withStore other.bare).recounter? r := by rw [hbare]
        _ = (s.withStore other).recounter? r := (s.withStore other).recounter?_bare r

/-- What is no recount leaves the store as it is, and does not look at figures. -/
theorem run_idle (h : a.recounter? store = none) (hbare : store.bare = other.bare) :
    (a.run store).1 = store ∧ (a.run store).2 = (a.run other).2 := by
  cases a with
  | operation s op =>
      have hop : op ≠ .recount := by
        rintro rfl
        cases h
      obtain ⟨hstore, hanswer⟩ := (s.withStore store).perform_bare op hop
      obtain ⟨-, hother⟩ := (s.withStore other).perform_bare op hop
      refine ⟨hstore, ?_⟩
      calc ((s.withStore store).perform op).2
          = ((s.withStore store.bare).perform op).2 := hanswer.symm
        _ = ((s.withStore other.bare).perform op).2 := by rw [hbare]
        _ = ((s.withStore other).perform op).2 := hother
  | request s r =>
      have hnone := (recounter?_eq hbare (.request s r)).symm.trans h
      obtain ⟨hstore, hanswer⟩ := (s.withStore store).handle_bare r h
      obtain ⟨-, hother⟩ := (s.withStore other).handle_bare r hnone
      refine ⟨hstore, ?_⟩
      calc ((s.withStore store).handle r).2
          = ((s.withStore store.bare).handle r).2 := hanswer.symm
        _ = ((s.withStore other.bare).handle r).2 := by rw [hbare]
        _ = ((s.withStore other).handle r).2 := hother

theorem refreshes_run (hkeys : store.WellKeyed .segments) (a : Act) :
    store.Refreshes (a.recounter? store = some ·) (a.run store).1 := by
  cases h : a.recounter? store with
  | none =>
      rw [(run_idle h rfl).1]
      exact .refl _ _
  | some m =>
      have hrun : store.Refreshes (· = m) (a.run store).1 := by
        cases a with
        | operation s op =>
            cases op with
            | recount =>
                obtain rfl : s.merchantId = m := Option.some.inj h
                exact (s.withStore store).refreshes_recount hkeys
            | _ => cases h
        | request s r => exact (s.withStore store).refreshes_handle hkeys r h
      exact hrun.mono fun _ hm => congrArg some hm.symm

end Act

/-- Acts one after the other, each on the store that the one before has left. -/
def history (store : Store) : List Act → Store × List ((a : Act) × a.Answer)
  | [] => (store, [])
  | a :: rest =>
      let (after, answer) := a.run store
      let (final, answers) := history after rest
      (final, ⟨a, answer⟩ :: answers)

section History

variable {store other : Store}

theorem refreshes_history (hkeys : store.WellKeyed .segments) (acts : List Act) :
    store.Refreshes (fun m => ∃ a ∈ acts, a.recounter? store = some m) (history store acts).1 := by
  induction acts generalizing store with
  | nil => exact .refl _ _
  | cons a rest ih =>
      -- Whose segments the later acts have counted can be read off the first store as well: the
      -- act in front has only changed figures.
      have hstep := Act.refreshes_run hkeys a
      have hrest := ih (hstep.keys hkeys)
      have hfirst := hstep.mono fun m hm => (⟨a, List.mem_cons_self, hm⟩ :
        ∃ b ∈ a :: rest, b.recounter? store = some m)
      refine hfirst.trans (hrest.mono fun m => ?_)
      rintro ⟨b, hb, hm⟩
      rw [Act.recounter?_eq hstep.bare_eq] at hm
      exact ⟨b, List.mem_cons_of_mem a hb, hm⟩

/-- Acts that count nothing are answered as they are without the recounts between them, also on
a store that shows other figures. -/
theorem history_filter (hkeys : store.WellKeyed .segments) (hbare : store.bare = other.bare)
    (acts : List Act) :
    (history store acts).2.filter (fun p => (p.1.recounter? store).isNone) =
      (history other (acts.filter fun a => (a.recounter? store).isNone)).2 := by
  induction acts generalizing store with
  | nil => rfl
  | cons a rest ih =>
      have hstep := Act.refreshes_run hkeys a
      have hrest := ih (hstep.keys hkeys) (hstep.bare_eq.trans hbare)
      simp only [Act.recounter?_eq hstep.bare_eq] at hrest
      cases h : a.recounter? store with
      | some m =>
          simp only [history, List.filter_cons, h, Option.isNone_some]
          exact hrest
      | none =>
          -- Without a recount the other store stays as it is for the acts to come.
          have hnone := (Act.recounter?_eq hbare a).symm.trans h
          have hanswer := (Act.run_idle h hbare).2
          have hidle := (Act.run_idle hnone rfl).1
          simp only [history, List.filter_cons, h, Option.isNone_none, if_true, hidle, hanswer]
          exact congrArg _ hrest

end History

/-- What recounts come to in the course of a history. -/
structure OnlyRefreshes (store : Store) (acts : List Act) : Prop where
  stored : store.Refreshes (fun m => ∃ a ∈ acts, a.recounter? store = some m)
    (history store acts).1
  answers : (history store acts).2.filter (fun p => (p.1.recounter? store).isNone) =
    (history store (acts.filter fun a => (a.recounter? store).isNone)).2

/-- In the course of a history nothing changes but figures of live segments whose merchants had
them counted, and nobody but who has segments counted is answered with them. -/
theorem history_only_refreshes (store : Store) (acts : List Act)
    (hkeys : store.WellKeyed .segments) : OnlyRefreshes store acts :=
  ⟨refreshes_history hkeys acts, history_filter hkeys rfl acts⟩

/-- A recount that breaks off, before the first segment is resolved. -/
def Sample.brokenOff : List Act :=
  [.operation crashingSession .recount, .operation linkedSession (.resolveSegment "s1")]

theorem history_only_refreshes_brokenOff :
    Sample.mixedStore.WellKeyed .segments ∧ OnlyRefreshes Sample.mixedStore Sample.brokenOff ∧
      (history Sample.mixedStore Sample.brokenOff).1.segment? "m1" "s1" =
        some { Sample.segment with
          count := some (.whole 1)
          criteria := some "browser is chrome"
          calculatedAt := some Sample.now.wall } := by
  have hkeys : Sample.mixedStore.WellKeyed .segments := by decide
  refine ⟨hkeys, history_only_refreshes _ _ hkeys, ?_⟩
  have hstore : (history Sample.mixedStore Sample.brokenOff).1 =
      Sample.crashingSession.recount.1 := rfl
  rw [hstore, Session.breaksOff_crashingSession.1]
  decide +kernel

end Targeting
