import AegisVPN.Bot.AccessRuns
import AegisVPN.Bot.Renewals

namespace AegisVPN
open Library
set_option autoImplicit true

/-! ## The row that is paid for -/

/-- The row of the user that a plan is added to, and what becomes of it. -/
inductive PaidDraft (db : Db D) (userId : Nat) (planDays now : Int) : Draft → Prop
  | renew {sub : Subscription} (hactive : db.activeOf userId = [sub]) :
    PaidDraft db userId planDays now (.update sub
      { sub with expiresAt := max sub.expiresAt now + planDays * microsPerDay })
  | restore {sub : Subscription} (hactive : db.activeOf userId = [])
    (hlatest : largest Subscription.expiresAt (db.subscriptionsOf userId) = some sub)
    (hexpired : sub.expiresAt < now) :
    PaidDraft db userId planDays now (.update sub { sub with
      isActive := true, planDays := planDays, expiresAt := now + planDays * microsPerDay })
  | create {sub : Subscription} (hactive : db.activeOf userId = [])
    (hlatest : ∀ old, largest Subscription.expiresAt (db.subscriptionsOf userId) = some old →
      now ≤ old.expiresAt)
    (huser : sub.userId = userId) (hnew : sub.isActive = true) (hdays : sub.planDays = planDays)
    (hexpires : sub.expiresAt = now + planDays * microsPerDay) :
    PaidDraft db userId planDays now (.insert sub)

theorem addDays_ok (h : addDays t days = .ok t') : t' = t + days * microsPerDay := by
  rw [addDays] at h
  split at h
  · cases h
    rfl
  · cases h

section Run
variable {w w' : Solo (Db D)}

theorem ofExcept_run {x : Except BotError α}
    (h : (Prog.ofExcept x : BotProg D α).run Solo.serve w = (.ok a, w')) : x = .ok a := by
  cases x with
  | ok b =>
    cases h
    rfl
  | error e => cases h

theorem newSubscription_run
    (h : (newSubscription userId planDays now expiresAt).run Solo.serve w = (.ok draft, w')) :
    ∃ sub, draft = .insert sub ∧ sub.userId = userId ∧ sub.isActive = true ∧
      sub.planDays = planDays ∧ sub.expiresAt = expiresAt := by
  obtain ⟨token, w₁, -, h⟩ := Prog.exists_run_bind h
  obtain ⟨uuid, w₂, -, h⟩ := Prog.exists_run_bind h
  cases h
  exact ⟨_, rfl, rfl, rfl, rfl, rfl⟩

theorem paidDraft_run
    (h : (paidDraft userId planDays now).run Solo.serve w = (.ok draft, w')) :
    w'.view = w.view ∧ PaidDraft w.view userId planDays now draft := by
  have hview : w'.view = w.view := by
    have hsame := Solo.run_moves (paidDraft_uses (plain_moves Eq).toAsks userId planDays now)
      (fun _ => rfl) (fun _ _ _ => Eq.trans) w
    rw [h] at hsame
    exact hsame.symm
  refine ⟨hview, ?_⟩
  obtain ⟨active, w₁, hactive, h⟩ := Prog.exists_run_bind h
  obtain ⟨hactive, rfl⟩ := queryOne_run hactive
  cases active with
  | some sub =>
    obtain ⟨expiresAt, w₂, hadd, h⟩ := Prog.exists_run_bind h
    rw [addDays_ok (ofExcept_run hadd)] at h
    cases h
    exact .renew (scalarOneOrNone_eq hactive)
  | none =>
    have hnone := scalarOneOrNone_none hactive
    obtain ⟨expired, w₂, hexpired, h⟩ := Prog.exists_run_bind h
    obtain ⟨expiresAt, w₃, hadd, h⟩ := Prog.exists_run_bind h
    rw [addDays_ok (ofExcept_run hadd)] at h
    have hlatest : largest Subscription.expiresAt (w₁.view.subscriptionsOf userId) = expired := by
      cases hexpired
      rfl
    cases expired with
    | none =>
      obtain ⟨sub, rfl, huser, hnew, hdays, hexpires⟩ := newSubscription_run h
      exact .create hnone (fun old hold => by rw [hlatest] at hold; cases hold) huser hnew hdays
        hexpires
    | some sub =>
      dsimp only at h
      split at h
      · rename_i hpast
        cases h
        exact .restore hnone hlatest hpast
      · rename_i hpast
        obtain ⟨new, rfl, huser, hnew, hdays, hexpires⟩ := newSubscription_run h
        refine .create hnone (fun old hold => ?_) huser hnew hdays hexpires
        rw [hlatest] at hold
        cases hold
        exact not_lt.1 hpast

/-- What a draft makes of the rows. -/
def Draft.Leaves (rows rows' : List Subscription) : Draft → Prop
  | .update old new => rows' = rows.map fun r => if r.id = old.id then old.patch new r else r
  | .insert new => ∃ id, (∀ r ∈ rows, r.id ≠ id) ∧ rows' = rows ++ [{ new with id := id }]

theorem deliver_run [DecidableEq D] {settings : ControlSettings D} {pending : Pending D}
    {draft : Draft} (hpending : ∀ a ∈ pending, Preserves SameRows a)
    (h : (deliver settings pending draft).run Solo.serve w = (.ok (), w')) :
    draft.Leaves w.view.subscriptions w'.view.subscriptions := by
  obtain ⟨sub, w₁, hflush, h⟩ := Prog.exists_run_bind h
  obtain ⟨servers, w₂, hquery, hsync⟩ := Prog.exists_run_bind h
  have hview : w₂.view = w₁.view := by
    cases hquery
    rfl
  have hrows : (pending.write w.view).2.subscriptions = w.view.subscriptions :=
    Preserves.write sameRows_refl sameRows_trans hpending w.view
  have hsame : w'.view.subscriptions = w₁.view.subscriptions :=
    (sync_run hsync).subscriptions.trans (congrArg Db.subscriptions hview)
  cases draft with
  | update old new =>
    obtain ⟨_, w₃, hwrite, hret⟩ := Prog.exists_run_bind hflush
    cases hret
    have hwrite := flush_run hwrite
    have happend := write_append (congrArg Prod.fst hwrite)
    rw [hwrite] at happend
    have hdirty := dirtySubscription_rows (congrArg Prod.fst happend.symm)
    rw [← happend, hrows] at hdirty
    exact hsame.trans hdirty
  | insert new =>
    obtain ⟨hinsert, -⟩ := execute_run hflush
    obtain ⟨_, -, hrow, hdb⟩ := DbAct.andThen_ok (congrArg Prod.fst hinsert)
    obtain ⟨rfl, hadded⟩ := insertSubscription_rows hrow
    rw [hinsert] at hdb
    refine ⟨_, fun r hr => ?_, hsame.trans ((congrArg Db.subscriptions hdb).trans hadded |>.trans
      (by rw [hrows]))⟩
    exact (lt_nextId (List.mem_map_of_mem hr)).ne

end Run

/-! ## What the user has afterwards -/

/-- One row has taken the place of another, or has been added, and none of the others is an active
one of the user. -/
structure Swapped (userId : Nat) (rows rows' : List Subscription) (old : Option Subscription)
    (new : Subscription) : Prop where
  split : ∃ l l', rows = l ++ old.toList ++ l' ∧ rows' = l ++ [new] ++ l' ∧
    ∀ r ∈ l ++ l', r.userId = userId → r.isActive = false
  newUser : new.userId = userId
  newActive : new.isActive = true
  oldUser : ∀ r ∈ old, r.userId = userId
  id : ∀ r ∈ old, r.id = new.id
  ids : (rows'.map Subscription.id).Nodup

/-- What a plan was paid for: one active subscription of the user, with the days of the plan added
to what was left, lifetime where it was lifetime or where the plan is. -/
structure PaidValue (before after : Db D) (userId : Nat) (planDays now : Int) : Prop where
  value : ∃ sub, after.activeOf userId = [sub] ∧
    (0 < planDays → (∀ r ∈ before.subscriptionsOf userId, isLifetimeSubscription r = false) →
      sub.expiresAt = ((before.activeOf userId).head?.map fun a => max a.expiresAt now).getD now +
        planDays * microsPerDay) ∧
    (planDays = 0 → isLifetimeSubscription sub = true)
  lifetime : ∀ r ∈ before.subscriptionsOf userId, isLifetimeSubscription r = true →
    ∃ r' ∈ after.subscriptionsOf userId, r'.id = r.id ∧ isLifetimeSubscription r' = true

section Value
variable {before after : Db D} {old : Option Subscription} {new : Subscription}

theorem Swapped.activeOf (h : Swapped userId before.subscriptions after.subscriptions old new) :
    after.activeOf userId = [new] ∧ before.activeOf userId = old.toList.filter
      Subscription.isActive := by
  obtain ⟨l, l', hrows, hrows', hothers⟩ := h.split
  have hnone : ∀ k : List Subscription, (∀ r ∈ k, r ∈ l ++ l') →
      (k.filter fun s => s.userId == userId).filter Subscription.isActive = [] := by
    intro k hk
    rw [List.filter_filter]
    refine List.filter_eq_nil_iff.2 fun r hr => ?_
    rw [Bool.and_eq_true, beq_iff_eq]
    rintro ⟨hactive, huser⟩
    rw [hothers r (hk r hr) huser] at hactive
    cases hactive
  have hl := hnone l fun r hr => List.mem_append_left _ hr
  have hl' := hnone l' fun r hr => List.mem_append_right _ hr
  have hold : old.toList.filter (fun s => s.userId == userId) = old.toList :=
    List.filter_eq_self.2 fun r hr => beq_iff_eq.2 (h.oldUser r (Option.mem_toList.1 hr))
  constructor
  · rw [Db.activeOf, Db.subscriptionsOf, hrows']
    simp [List.filter_append, hl, hl', h.newUser, h.newActive]
  · rw [Db.activeOf, Db.subscriptionsOf, hrows]
    simp [List.filter_append, hl, hl', hold]

/-- Of the old rows of the user only the one that was swapped can have lost its lifetime. -/
theorem Swapped.lifetime (h : Swapped userId before.subscriptions after.subscriptions old new) :
    (∀ r ∈ before.subscriptionsOf userId, isLifetimeSubscription r = true →
      ∃ r' ∈ after.subscriptionsOf userId, r'.id = r.id ∧ isLifetimeSubscription r' = true) ↔
    ∀ r ∈ old, isLifetimeSubscription r = true → isLifetimeSubscription new = true := by
  obtain ⟨l, l', hrows, hrows', -⟩ := h.split
  have hnew : new ∈ after.subscriptionsOf userId := by
    rw [Db.subscriptionsOf, hrows', List.mem_filter]
    simp [h.newUser]
  constructor
  · intro hkept r hr hlifetime
    have hmem : r ∈ before.subscriptionsOf userId := by
      rw [Db.subscriptionsOf, hrows, List.mem_filter]
      simp [Option.mem_def.1 hr, h.oldUser r hr]
    obtain ⟨r', hr', hid, hlifetime'⟩ := hkept r hmem hlifetime
    have hsame : r' = new := List.inj_on_of_nodup_map h.ids (List.mem_of_mem_filter hr')
      (List.mem_of_mem_filter hnew) (hid.trans (h.id r hr))
    rwa [← hsame]
  · intro hkept r hr hlifetime
    obtain ⟨hmem, huser⟩ := List.mem_filter.1 hr
    rw [hrows, List.mem_append, List.mem_append, Option.mem_toList] at hmem
    have hother : r ∈ l ++ l' → r ∈ after.subscriptionsOf userId := by
      intro hr
      rw [Db.subscriptionsOf, hrows', List.mem_filter]
      refine ⟨?_, huser⟩
      rcases List.mem_append.1 hr with hr | hr <;> simp [hr]
    rcases hmem with (hmem | hmem) | hmem
    · exact ⟨r, hother (List.mem_append_left _ hmem), rfl, hlifetime⟩
    · exact ⟨new, hnew, (h.id r hmem).symm, hkept r hmem hlifetime⟩
    · exact ⟨r, hother (List.mem_append_right _ hmem), rfl, hlifetime⟩

theorem Swapped.paidValue (h : Swapped userId before.subscriptions after.subscriptions old new)
    (hexpires : new.expiresAt = ((before.activeOf userId).head?.map fun a =>
      max a.expiresAt now).getD now + planDays * microsPerDay) :
    PaidValue before after userId planDays now ↔
      (planDays = 0 ∨ ∃ r ∈ old, isLifetimeSubscription r = true) →
        isLifetimeSubscription new = true := by
  constructor
  · intro hvalue hdue
    rcases hdue with hzero | ⟨r, hr, hlifetime⟩
    · obtain ⟨sub, hsub, -, hfree⟩ := hvalue.value
      rw [h.activeOf.1, List.singleton_inj] at hsub
      rw [hsub]
      exact hfree hzero
    · exact h.lifetime.1 hvalue.lifetime r hr hlifetime
  · intro hdue
    exact ⟨⟨new, h.activeOf.1, fun _ _ => hexpires, fun hzero => hdue (.inl hzero)⟩,
      h.lifetime.2 fun r hr hlifetime => hdue (.inr ⟨r, hr, hlifetime⟩)⟩

theorem patch_own [DecidableEq β] (old new : β) : AegisVPN.patch old new old = new := by
  rw [AegisVPN.patch]
  split
  · assumption
  · rfl

theorem map_one {rows : List Subscription} (hids : (rows.map Subscription.id).Nodup)
    (hold : r ∈ rows) (f : Subscription → Subscription) :
    ∃ l l', rows = l ++ [r] ++ l' ∧
      (rows.map fun s => if s.id = r.id then f s else s) = l ++ [f r] ++ l' := by
  obtain ⟨l, l', rfl⟩ := List.append_of_mem hold
  rw [List.map_append, List.map_cons, List.nodup_append'] at hids
  obtain ⟨-, hids, hdisjoint⟩ := hids
  have hleft : ∀ s ∈ l, s.id ≠ r.id := fun s hs heq =>
    hdisjoint (List.mem_map_of_mem hs) (heq ▸ List.mem_cons_self)
  have hright : ∀ s ∈ l', s.id ≠ r.id := fun s hs heq =>
    (List.nodup_cons.1 hids).1 (heq ▸ List.mem_map_of_mem hs)
  refine ⟨l, l', by simp, ?_⟩
  have hsame : ∀ k : List Subscription, (∀ s ∈ k, s.id ≠ r.id) →
      (k.map fun s => if s.id = r.id then f s else s) = k := by
    intro k hk
    refine (List.map_congr_left fun s hs => ?_).trans (List.map_id k)
    rw [if_neg (hk s hs), id_eq]
  rw [List.map_append, List.map_cons, hsame l hleft, hsame l' hright, if_pos rfl]
  simp

theorem swapped_update {rows rows' : List Subscription} {sub new : Subscription}
    (hids : (rows.map Subscription.id).Nodup) (hmem : sub ∈ rows) (huser : sub.userId = userId)
    (hactive : ∀ r ∈ rows, r.userId = userId → r.isActive = true → r = sub)
    (hrows : rows' = rows.map fun r => if r.id = sub.id then sub.patch new r else r)
    (hpatch : sub.patch new sub = new) (hnew : new.isActive = true) :
    Swapped userId rows rows' (some sub) new := by
  have hid : new.id = sub.id := by
    rw [← hpatch]
    rfl
  have hnewUser : new.userId = userId := by
    rw [← hpatch]
    exact huser
  obtain ⟨l, l', hsplit, hmap⟩ := map_one hids hmem (sub.patch new)
  rw [hpatch] at hmap
  have hids' : ((l ++ [sub] ++ l').map Subscription.id).Nodup := hsplit ▸ hids
  constructor
  · refine ⟨l, l', hsplit, hrows.trans hmap, fun r hr hruser => ?_⟩
    by_contra hon
    have hrow : r ∈ rows := by
      rw [hsplit]
      rcases List.mem_append.1 hr with hr | hr <;> simp [hr]
    obtain rfl := hactive r hrow hruser (by simpa using hon)
    have hperm : (l ++ [r] ++ l').Perm (r :: (l ++ l')) := by simp
    have hcons := (hperm.map Subscription.id).nodup_iff.1 hids'
    rw [List.map_cons] at hcons
    exact (List.nodup_cons.1 hcons).1 (List.mem_map_of_mem hr)
  · exact hnewUser
  · exact hnew
  · intro r hr
    rw [← Option.some.inj hr]
    exact huser
  · intro r hr
    rw [← Option.some.inj hr]
    exact hid.symm
  · rw [hrows, hmap]
    simpa [hid] using hids'

theorem swapped_insert {rows rows' : List Subscription} {new : Subscription}
    (hids : (rows.map Subscription.id).Nodup)
    (hactive : ∀ r ∈ rows, r.userId = userId → r.isActive = false)
    (hfresh : ∀ r ∈ rows, r.id ≠ new.id) (hrows : rows' = rows ++ [new])
    (huser : new.userId = userId) (hnew : new.isActive = true) :
    Swapped userId rows rows' none new := by
  constructor
  · exact ⟨rows, [], by simp, by simpa using hrows, by simpa using hactive⟩
  · exact huser
  · exact hnew
  · simp
  · simp
  · rw [hrows, List.map_append, List.map_singleton]
    refine List.nodup_append'.2 ⟨hids, List.nodup_singleton _, fun id hid hnewid => ?_⟩
    obtain ⟨r, hr, rfl⟩ := List.mem_map.1 hid
    exact hfresh r hr (List.mem_singleton.1 hnewid)

end Value

/-- No active subscription that is not lifetime is renewed by a plan without days, and none that is
lifetime by its plan has expired and is restored by a plan with days. -/
structure LifetimeKept (db : Db D) (userId : Nat) (planDays now : Int) : Prop where
  active : ∀ sub ∈ db.activeOf userId, planDays = 0 ∨ isLifetimeSubscription sub = true →
    sub.planDays = lifetimePlanDays ∨
      lifetimeExpiresAt ≤ max sub.expiresAt now + planDays * microsPerDay
  expired : db.activeOf userId = [] → ∀ sub,
    largest Subscription.expiresAt (db.subscriptionsOf userId) = some sub → sub.expiresAt < now →
      isLifetimeSubscription sub = true → planDays = lifetimePlanDays ∨
        lifetimeExpiresAt ≤ now + planDays * microsPerDay

theorem isLifetime_iff {sub : Subscription} : isLifetimeSubscription sub = true ↔
    sub.planDays = lifetimePlanDays ∨ lifetimeExpiresAt ≤ sub.expiresAt := by
  rw [isLifetimeSubscription, Bool.or_eq_true, beq_iff_eq, decide_eq_true_eq]

theorem active_eq_nil {db : Db D} (h : db.activeOf userId = []) :
    ∀ r ∈ db.subscriptions, r.userId = userId → r.isActive = false := by
  intro r hr huser
  by_contra hon
  have hmem : r ∈ db.activeOf userId :=
    List.mem_filter.2 ⟨List.mem_filter.2 ⟨hr, beq_iff_eq.2 huser⟩, by simpa using hon⟩
  rw [h] at hmem
  cases hmem

/-- What the user has after the draft is worth its money exactly if no lifetime is lost. -/
theorem PaidDraft.paidValue {before after : Db D} {draft : Draft}
    (h : PaidDraft before userId planDays now draft)
    (hids : (before.subscriptions.map Subscription.id).Nodup)
    (hleaves : draft.Leaves before.subscriptions after.subscriptions) :
    PaidValue before after userId planDays now ↔ LifetimeKept before userId planDays now := by
  cases h with
  | @renew sub hactive =>
    have hmem : sub ∈ before.activeOf userId := hactive ▸ List.mem_singleton_self sub
    obtain ⟨hof, hon⟩ := List.mem_filter.1 hmem
    obtain ⟨hrow, huser⟩ := List.mem_filter.1 hof
    have hone : ∀ r ∈ before.subscriptions, r.userId = userId → r.isActive = true → r = sub := by
      intro r hr hruser hactive'
      have hin : r ∈ before.activeOf userId :=
        List.mem_filter.2 ⟨List.mem_filter.2 ⟨hr, beq_iff_eq.2 hruser⟩, hactive'⟩
      rw [hactive] at hin
      exact List.mem_singleton.1 hin
    have hpatch : sub.patch { sub with
        expiresAt := max sub.expiresAt now + planDays * microsPerDay } sub =
        { sub with expiresAt := max sub.expiresAt now + planDays * microsPerDay } := by
      simp [Subscription.patch, patch_own]
    rw [(swapped_update hids hrow (beq_iff_eq.1 huser) hone hleaves hpatch hon).paidValue
      (by rw [hactive]; rfl), isLifetime_iff]
    constructor
    · intro hdue
      refine ⟨fun sub' hsub' hlife => ?_, fun hnil => ?_⟩
      · rw [hactive] at hsub'
        obtain rfl := List.mem_singleton.1 hsub'
        exact hdue (hlife.imp_right fun hlife => ⟨sub', rfl, hlife⟩)
      · rw [hactive] at hnil
        cases hnil
    · rintro hkept (hzero | ⟨r, hr, hlife⟩)
      · exact hkept.active sub hmem (.inl hzero)
      · obtain rfl := Option.some.inj hr
        exact hkept.active _ hmem (.inr hlife)
  | @restore sub hactive hlatest hexpired =>
    obtain ⟨hrow, huser⟩ := List.mem_filter.1 (largest_mem hlatest)
    have hone : ∀ r ∈ before.subscriptions, r.userId = userId → r.isActive = true → r = sub := by
      intro r hr hruser hon
      rw [active_eq_nil hactive r hr hruser] at hon
      cases hon
    have hpatch : sub.patch { sub with
        isActive := true, planDays := planDays, expiresAt := now + planDays * microsPerDay } sub =
        { sub with
          isActive := true, planDays := planDays, expiresAt := now + planDays * microsPerDay } := by
      simp [Subscription.patch, patch_own]
    rw [(swapped_update hids hrow (beq_iff_eq.1 huser) hone hleaves hpatch rfl).paidValue
      (by rw [hactive]; rfl), isLifetime_iff]
    constructor
    · intro hdue
      refine ⟨fun sub' hsub' => ?_, fun _ sub' hlatest' _ hlife => ?_⟩
      · rw [hactive] at hsub'
        cases hsub'
      · obtain rfl := Option.some.inj (hlatest.symm.trans hlatest')
        exact hdue (.inr ⟨_, rfl, hlife⟩)
    · rintro hkept (hzero | ⟨r, hr, hlife⟩)
      · exact .inl hzero
      · obtain rfl := Option.some.inj hr
        exact hkept.expired hactive _ hlatest hexpired hlife
  | @create sub hactive hlatest huser hnew hdays hexpires =>
    obtain ⟨id, hfresh, hrows⟩ := hleaves
    have hswapped : Swapped userId before.subscriptions after.subscriptions none
        { sub with id := id } :=
      swapped_insert hids (active_eq_nil hactive) hfresh hrows huser hnew
    rw [hswapped.paidValue (by rw [hactive]; exact hexpires), isLifetime_iff]
    refine iff_of_true (fun hdue => .inl ?_) ⟨fun sub' hsub' => ?_, fun _ old hold hpast => ?_⟩
    · rcases hdue with hzero | ⟨r, hr, -⟩
      · exact hdays.trans hzero
      · cases hr
    · rw [hactive] at hsub'
      cases hsub'
    · exact absurd hpast (not_lt.2 (hlatest old hold))

/-- Whatever subscriptions a user has: once a plan that was paid for has been committed, the user
has its value exactly if no lifetime is kept from the user. -/
theorem paid_subscription_value [DecidableEq D] (settings : ControlSettings D) (db : Db D)
    (outside : Outside) (userId : Nat) (planDays : Int) (payment : PaymentProvider × String)
    (w : Solo (Db D)) (hids : (db.subscriptions.map Subscription.id).Nodup)
    (h : ((applyPaidSubscription settings [] userId planDays payment).bind fun _ =>
      commit []).run Solo.serve (.start db outside) = (.ok (), w)) :
    PaidValue db w.committed userId planDays (outside.times 0) ↔
      LifetimeKept db userId planDays (outside.times 0) := by
  obtain ⟨_, w₁, happly, hcommit⟩ := Prog.exists_run_bind h
  obtain ⟨now, w₂, hclock, hgrant⟩ := Prog.exists_run_bind happly
  obtain ⟨draft, w₃, hdraft, hdeliver⟩ := Prog.exists_run_bind hgrant
  have hnow : now = outside.times 0 ∧ w₂.view = db := by
    cases hclock
    exact ⟨rfl, rfl⟩
  obtain ⟨rfl, hview⟩ := hnow
  obtain ⟨hview₃, hpaid⟩ := paidDraft_run hdraft
  have hleaves := deliver_run (fun a ha => by
    rw [List.mem_singleton.1 ha]
    exact fun _ => rfl) hdeliver
  rw [hview₃, hview] at hleaves
  rw [hview] at hpaid
  rw [(commit_run hcommit).1]
  exact hpaid.paidValue hids hleaves

/-- The run in which a plan is bought for the one subscription below. -/
def boughtPlan (planDays : Int) : Except BotError Unit × Solo (Db (List DesiredItem)) :=
  ((applyPaidSubscription listSettings [] 1 planDays (.stars, "p1")).bind fun _ =>
    commit []).run Solo.serve (.start (oneSubscription none []) oneRotation)

theorem paid_subscription_value_month : ∃ w, boughtPlan 30 = (.ok (), w) ∧
    PaidValue (oneSubscription none []) w.committed 1 30 0 := by
  have hok : (boughtPlan 30).1 = .ok () := by decide
  refine ⟨_, Prod.ext hok rfl, (paid_subscription_value listSettings (oneSubscription none [])
    oneRotation 1 30 (.stars, "p1") _ (by decide) (Prod.ext hok rfl)).2 ⟨?_, ?_⟩⟩
  · decide
  · intro hnil
    exact absurd hnil (by decide)

/-- A lifetime plan is bought, and the subscription ends when it would have ended without it. -/
theorem lifetime_plan_lost : ¬ ∀ (planDays : Int) (w : Solo (Db (List DesiredItem))),
    boughtPlan planDays = (.ok (), w) →
      PaidValue (oneSubscription none []) w.committed 1 planDays 0 := by
  intro hall
  have hok : (boughtPlan 0).1 = .ok () := by decide
  have hactive : (boughtPlan 0).2.committed.activeOf 1 = [oneRow none] := by decide
  obtain ⟨sub, hsub, -, hlifetime⟩ := (hall 0 (boughtPlan 0).2 (Prod.ext hok rfl)).value
  rw [hactive, List.singleton_inj] at hsub
  have hfree := hlifetime rfl
  rw [← hsub] at hfree
  exact absurd hfree (by decide)

end AegisVPN
