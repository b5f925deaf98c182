import AegisVPN.Bot.SchedulerTasks
import AegisVPN.Library.Transactions

namespace AegisVPN
open Library
set_option autoImplicit true

/-! ## Rules for the statements of the bot -/

section Rules
variable {C : Contract (Db D) Source AgentCall ω} {op : ω} {Q : α → Db D → Int → Prop}

theorem within_query {source : Source} {q : Db D → α}
    (h : ∀ n', n ≤ n' → ∀ d, (C.watches source = true → d = v) → Q (q d) v n') :
    C.Within op (query source q) Q db v n := Contract.within_select h

theorem within_queryOne {source : Source} {q : Db D → Except BotError α}
    (h : ∀ n', n ≤ n' → ∀ d, (C.watches source = true → d = v) → ∀ a, q d = .ok a → Q a v n') :
    C.Within op (queryOne source q) Q db v n :=
  Contract.within_orRaise (Contract.within_select h)

theorem within_execute {u : DbAct D α}
    (h : ∀ n', n ≤ n' → ∀ a, (u v).1 = .ok a → Q a (u v).2 n') :
    C.Within op (execute u) Q db v n := Contract.within_orRaise (Contract.within_execute h)

theorem within_flush {Q : Unit → Db D → Int → Prop} {pending : Pending D}
    (hclean : pending = [] → Q () v n)
    (h : ∀ n', n ≤ n' → (pending.write v).1 = .ok () → Q () (pending.write v).2 n') :
    C.Within op (flush pending) Q db v n := by
  refine Contract.within_whenever (fun _ => within_execute fun n' hn a ha => h n' hn ha) ?_
  cases pending with
  | nil => exact fun _ => hclean rfl
  | cons a rest => simp

theorem keepsOpen_commit {k : Unit → BotProg D Unit}
    (h : ∀ n', n ≤ n' → C.inv n' db → C.may op n' db v → C.inv n' v ∧ C.change op db v)
    (hk : C.KeepsClosed op (k ()) n) : C.KeepsOpen op ((commit []).bind k) db v n :=
  Contract.keepsOpen_commit h fun _ hn hi => hk.start hn hi

theorem keepsOpen_lockCommit {l : Nat} {p : BotProg D Unit} {k : Unit → BotProg D Unit}
    (h : ∀ n', n ≤ n' → C.Within op p (fun _ v' n' => ∀ n'', n' ≤ n'' → C.inv n'' db →
      C.may op n'' db v' → C.inv n'' v' ∧ C.change op db v') db v n')
    (hk : ∀ n, C.KeepsClosed op (k ()) n) :
    C.KeepsOpen op ((withLock l (p.bind fun _ => commit [])).bind k) db v n := by
  unfold withLock
  simp only [Prog.bind_eq, Prog.bind_assoc, Prog.attempt_bind]
  refine Contract.keepsOpen_bind (Contract.within_acquire fun n' hn => ?_)
  refine Contract.keepsOpen_bind (Contract.within_attempt ?_ ?_)
  · refine Contract.within_mono (h n' hn) fun a v' n₁ hq => ?_
    change C.KeepsOpen op ((commit []).bind fun _ => (Prog.perform (.release l)).bind fun _ =>
      k ()) db v' n₁
    exact keepsOpen_commit hq (Contract.keepsClosed_release (hk n₁))
  · intro e v' n₁
    change C.KeepsOpen op ((Prog.perform (.release l)).bind fun _ => .raise e) db v' n₁
    exact Contract.keepsOpen_bind (Contract.within_release fun _ _ => Contract.keepsOpen_raise)

theorem keepsClosed_query {source : Source} {q : Db D → α} {k : α → BotProg D Unit}
    (h : ∀ db n', n ≤ n' → C.inv n' db → ∀ d, (C.watches source = true → d = db) →
      C.KeepsOpen op (k (q d)) db db n') :
    C.KeepsClosed op ((query source q).bind k) n := Contract.keepsClosed_select h

theorem keepsClosed_queryOne {source : Source} {q : Db D → Except BotError α}
    {k : α → BotProg D Unit}
    (h : ∀ db n', n ≤ n' → C.inv n' db → ∀ d, (C.watches source = true → d = db) →
      ∀ a, q d = .ok a → C.KeepsOpen op (k a) db db n') :
    C.KeepsClosed op ((queryOne source q).bind k) n := by
  change C.KeepsClosed op ((Prog.perform (.select source q)).bind fun x =>
    (Prog.ofExcept x).bind k) n
  refine Contract.keepsClosed_select fun db n' hn hi d hd => ?_
  cases hq : q d with
  | ok a => exact h db n' hn hi d hd a hq
  | error e => exact Contract.keepsOpen_raise

end Rules

/-! ## The statements of the procedures -/

section Uses
variable {P : ∀ {β : Type}, BotStmt D β → Prop}

/-- The statements that only ask for something. -/
structure Asks (P : ∀ {β : Type}, BotStmt D β → Prop) : Prop where
  clock : P .clock
  ask : P .ask
  select : ∀ {α : Type} (source : Source) (q : Db D → α), P (.select source q)

/-- The statements that neither write nor call nor end a transaction. -/
structure Plain (P : ∀ {β : Type}, BotStmt D β → Prop) : Prop extends Asks P where
  acquire : ∀ k, P (.acquire k)
  release : ∀ k, P (.release k)

theorem query_uses (hP : Asks P) (source : Source) (q : Db D → α) : (query source q).Uses P :=
  Prog.uses_perform (hP.select source q)

theorem queryOne_uses (hP : Asks P) (source : Source) (q : Db D → Except BotError α) :
    (queryOne source q).Uses P := Prog.uses_performOrRaise (hP.select source q)

theorem execute_uses {u : DbAct D α} (h : P (.execute u)) : (execute u).Uses P :=
  Prog.uses_performOrRaise h

theorem flush_uses {pending : Pending D} (h : P (.execute pending.write)) :
    (flush pending).Uses P := Prog.uses_whenever fun _ => execute_uses h

theorem request_uses (h : P (.call c)) : (request c : BotProg D Bool).Uses P := by
  refine Prog.uses_bind (Prog.uses_perform h) fun first => ?_
  split
  · trivial
  refine Prog.uses_bind (Prog.uses_perform h) fun second => ?_
  split
  · trivial
  · exact Prog.uses_perform h

theorem requestAll_uses {cs : List AgentCall} (h : ∀ c ∈ cs, P (.call c)) :
    (requestAll cs : BotProg D Unit).Uses P :=
  Prog.uses_foldlM () fun c hc _ => Prog.uses_bind (request_uses (h c hc)) fun _ => trivial

theorem attempt_uses {p : BotProg D α} (h : p.Uses P) : p.attempt.Uses P := by
  induction p with
  | ret a => trivial
  | raise e => trivial
  | stmt s k ih => exact ⟨h.1, fun b => ih b (h.2 b)⟩

theorem withLock_uses (hP : Plain P) {k : Nat} {p : BotProg D α} (h : p.Uses P) :
    (withLock k p).Uses P := by
  refine Prog.uses_bind (Prog.uses_perform (hP.acquire k)) fun _ => ?_
  refine Prog.uses_bind (attempt_uses h) fun r => ?_
  exact Prog.uses_bind (Prog.uses_perform (hP.release k)) fun _ => Prog.uses_ofExcept r

theorem generateSubToken_uses (hP : Asks P) (tries : Nat) :
    (generateSubToken tries : BotProg D String).Uses P := by
  induction tries with
  | zero => trivial
  | succ tries ih =>
    refine Prog.uses_bind (Prog.uses_perform hP.ask) fun token => ?_
    refine Prog.uses_bind (queryOne_uses hP _ _) fun taken => ?_
    split
    · trivial
    · exact ih

theorem newSubscription_uses (hP : Asks P) (userId : Nat) (planDays now expiresAt : Int) :
    (newSubscription userId planDays now expiresAt : BotProg D Draft).Uses P :=
  Prog.uses_bind (generateSubToken_uses hP _) fun _ =>
    Prog.uses_bind (Prog.uses_perform hP.ask) fun _ => trivial

theorem withIdentity_uses (hP : Plain P) (sub : Subscription) :
    (withIdentity sub : BotProg D Subscription).Uses P := by
  refine Prog.uses_bind ?_ fun token => Prog.uses_bind ?_ fun uuid => trivial
  · split
    · exact generateSubToken_uses hP.toAsks _
    · trivial
  · split
    · exact Prog.uses_perform hP.ask
    · trivial

theorem paidDraft_uses (hP : Asks P) (userId : Nat) (planDays now : Int) :
    (paidDraft userId planDays now : BotProg D Draft).Uses P := by
  refine Prog.uses_bind (queryOne_uses hP _ _) fun active => ?_
  cases active with
  | some sub => exact Prog.uses_bind (Prog.uses_ofExcept _) fun _ => trivial
  | none =>
    refine Prog.uses_bind (query_uses hP _ _) fun expired => ?_
    refine Prog.uses_bind (Prog.uses_ofExcept _) fun expiresAt => ?_
    cases expired with
    | none => exact newSubscription_uses hP _ _ _ _
    | some sub =>
      dsimp only
      split
      · trivial
      · exact newSubscription_uses hP _ _ _ _

theorem grantDraft_uses (hP : Plain P) (userId : Nat) (days now : Int) :
    (grantDraft userId days now : BotProg D Draft).Uses P := by
  refine Prog.uses_bind (query_uses hP.toAsks _ _) fun latest => ?_
  cases latest with
  | none =>
    exact Prog.uses_bind (Prog.uses_ofExcept _) fun _ => newSubscription_uses hP.toAsks _ _ _ _
  | some sub =>
    dsimp only
    split
    · exact Prog.uses_bind (Prog.uses_ofExcept _) fun _ => trivial
    · exact Prog.uses_bind (Prog.uses_ofExcept _) fun _ =>
        Prog.uses_bind (withIdentity_uses hP _) fun _ => trivial

theorem lifetimeDraft_uses (hP : Plain P) (userId : Nat) (now : Int) :
    (lifetimeDraft userId now : BotProg D Draft).Uses P := by
  refine Prog.uses_bind (query_uses hP.toAsks _ _) fun latest => ?_
  cases latest with
  | none => exact newSubscription_uses hP.toAsks _ _ _ _
  | some sub => exact Prog.uses_bind (withIdentity_uses hP _) fun _ => trivial

theorem trialDraft_uses (hP : Plain P) (userId : Nat) (now : Int) :
    (trialDraft userId now : BotProg D Draft).Uses P := by
  refine Prog.uses_bind (query_uses hP.toAsks _ _) fun latest => ?_
  refine Prog.uses_bind (Prog.uses_ofExcept _) fun expiresAt => ?_
  cases latest with
  | none => exact newSubscription_uses hP.toAsks _ _ _ _
  | some sub => exact Prog.uses_bind (withIdentity_uses hP _) fun _ => trivial

theorem removalCalls_mem {uuids : List String} {servers : List (Server D)}
    (h : c ∈ removalCalls uuids expired servers) :
    ∃ agent uuid, c = .removeClient agent uuid expired := by
  obtain ⟨server, _, hc⟩ := List.mem_flatMap.1 h
  obtain ⟨uuid, _, rfl⟩ := List.mem_map.1 hc
  exact ⟨server.agent, uuid, rfl⟩

theorem extendedSubscription_isActive (h : extendedSubscription now days old = .ok new) :
    new.isActive = old.isActive := by
  unfold extendedSubscription at h
  split at h
  · cases h
    rfl
  · cases hexpiry : addDays (max old.expiresAt now) days with
    | error e =>
      rw [hexpiry] at h
      cases h
    | ok expiresAt =>
      rw [hexpiry] at h
      cases h
      rfl

theorem mem_zip_mapM {f : α → Except ε β} {l : List α} {l' : List β} (h : l.mapM f = .ok l')
    {p : α × β} (hp : p ∈ l.zip l') : f p.1 = .ok p.2 := by
  induction l generalizing l' with
  | nil => cases hp
  | cons a l ih =>
    rw [List.mapM_cons] at h
    cases hfirst : f a with
    | error e =>
      rw [hfirst] at h
      cases h
    | ok b =>
      rw [hfirst] at h
      cases hrest : l.mapM f with
      | error e =>
        rw [hrest] at h
        cases h
      | ok bs =>
        rw [hrest] at h
        cases h
        rcases List.mem_cons.1 hp with rfl | hp
        · exact hfirst
        · exact ih hrest hp

theorem extendActive_uses (hP : Plain P) (hcommit : P (.commit []))
    (hflush : ∀ subs : List (Subscription × Subscription),
      (∀ s ∈ subs, s.2.isActive = s.1.isActive) → P (.execute (Pending.write
        (subs.flatMap fun (old, new) => dirtySubscription old new)))) (days : Int) :
    (extendActiveNonLifetimeSubscriptions days : BotProg D Unit).Uses P := by
  refine Prog.uses_whenever fun _ => ?_
  refine Prog.uses_bind (Prog.uses_perform hP.clock) fun now => ?_
  refine Prog.uses_bind (query_uses hP.toAsks _ _) fun subs => ?_
  cases hextended : subs.mapM (extendedSubscription now days) with
  | error e => trivial
  | ok extended =>
    change Prog.Uses _ ((flush ((subs.zip extended).flatMap fun (old, new) =>
      dirtySubscription old new)).bind fun _ => commit [])
    refine Prog.uses_bind (flush_uses (hflush _ fun s hs => ?_)) fun _ =>
      Prog.uses_perform hcommit
    exact extendedSubscription_isActive (mem_zip_mapM hextended hs)

theorem registerOnStart_uses (hP : Plain P) (hcommit : P (.commit []))
    (hinsert : ∀ user, user.isBanned = false → P (.execute (insertUser user))) (tgId : Int) :
    (registerOrUpdateOnStart tgId : BotProg D Unit).Uses P := by
  refine Prog.uses_bind (queryOne_uses hP.toAsks _ _) fun user => ?_
  cases user with
  | none => exact Prog.uses_bind (execute_uses (hinsert _ rfl)) fun _ => Prog.uses_perform hcommit
  | some _ => exact Prog.uses_perform hcommit

theorem orRollback_uses {p : BotProg D Unit} (h : p.Uses P) (hrollback : P .rollback) :
    (orRollback p).Uses P := by
  refine Prog.uses_bind (attempt_uses h) fun r => ?_
  cases r with
  | ok _ => trivial
  | error _ => exact Prog.uses_perform hrollback

variable [DecidableEq D] {settings : ControlSettings D}

/-- What publication writes. -/
structure Publishes (P : ∀ {β : Type}, BotStmt D β → Prop) (settings : ControlSettings D)
    (pending : Pending D) : Prop where
  lock : ∀ serverId, P (.execute (lockServer serverId))
  write : ∀ serverId now, P (.execute (writeSnapshot settings pending serverId now))

theorem publishForServers_uses (hP : Asks P) {pending : Pending D}
    (h : Publishes P settings pending) (serverIds : List Nat) :
    (publishForServers settings pending serverIds).Uses P := by
  refine Prog.uses_foldlM () fun serverId _ _ => ?_
  refine Prog.uses_bind (query_uses hP _ _) fun server => Prog.uses_whenever fun _ => ?_
  refine Prog.uses_bind (Prog.uses_whenever fun _ => trivial) fun _ => ?_
  refine Prog.uses_bind (execute_uses (h.lock serverId)) fun _ => ?_
  exact Prog.uses_bind (Prog.uses_perform hP.clock) fun now => execute_uses (h.write serverId now)

/-- What it takes to bring subscriptions to servers. -/
structure Brings (P : ∀ {β : Type}, BotStmt D β → Prop) (settings : ControlSettings D) :
    Prop where
  asks : Asks P
  publishes : Publishes P settings []
  bulkAdd : ∀ agent clients, P (.call (.bulkAdd agent clients))
  links : ∀ subId loaded (results : List (Nat × Bool)),
    P (.execute (Pending.write (results.flatMap (dirtyLink subId loaded))))

/-- What it takes to bring subscriptions to servers and away from them. -/
structure Delivers (P : ∀ {β : Type}, BotStmt D β → Prop) (settings : ControlSettings D) :
    Prop where
  plain : Plain P
  publishes : Publishes P settings []
  bulkAdd : ∀ agent clients, P (.call (.bulkAdd agent clients))
  links : ∀ subId loaded (results : List (Nat × Bool)),
    P (.execute (Pending.write (results.flatMap (dirtyLink subId loaded))))

theorem Delivers.brings (h : Delivers P settings) : Brings P settings :=
  ⟨h.plain.toAsks, h.publishes, h.bulkAdd, h.links⟩

theorem syncSubscription_uses (hasks : Asks P) (hpub : Publishes P settings [])
    (hadd : ∀ agent clients, P (.call (.bulkAdd agent clients))) {sub : Subscription}
    (hlinks : ∀ loaded (results : List (Nat × Bool)),
      P (.execute (Pending.write (results.flatMap (dirtyLink sub.id loaded)))))
    (servers : List (Server D)) : (syncSubscriptionToServers settings sub servers).Uses P := by
  refine Prog.uses_whenever fun _ => ?_
  refine Prog.uses_bind (query_uses hasks _ _) fun devices => ?_
  refine Prog.uses_bind (Prog.uses_foldlM [] fun server _ results => ?_) fun results => ?_
  · refine Prog.uses_bind ?_ fun _ => trivial
    unfold syncToServer
    split
    · exact Prog.uses_bind (request_uses (hadd _ _)) fun _ => trivial
    · trivial
  · refine Prog.uses_bind (query_uses hasks _ _) fun loaded => ?_
    exact Prog.uses_bind (flush_uses (hlinks _ _)) fun _ => publishForServers_uses hasks hpub _

theorem syncSubscriptionToServers_uses (hP : Brings P settings) (sub : Subscription)
    (servers : List (Server D)) : (syncSubscriptionToServers settings sub servers).Uses P :=
  syncSubscription_uses hP.asks hP.publishes hP.bulkAdd (hP.links sub.id) servers

theorem removeSubscriptionFromServers_uses (hP : Plain P) (hpub : Publishes P settings [])
    {pending : Pending D} {expired : Option (Nat × Int)}
    (hcall : ∀ agent uuid, P (.call (.removeClient agent uuid expired)))
    (hpending : P (.execute pending.write)) (sub : Subscription) :
    (removeSubscriptionFromServers settings pending sub expired).Uses P := by
  refine Prog.uses_bind (query_uses hP.toAsks _ _) fun servers => ?_
  refine Prog.uses_bind (query_uses hP.toAsks _ _) fun uuids => ?_
  refine Prog.uses_bind (requestAll_uses fun c hc => ?_) fun _ => ?_
  · obtain ⟨agent, uuid, rfl⟩ := removalCalls_mem hc
    exact hcall agent uuid
  exact Prog.uses_bind (flush_uses hpending) fun _ => publishForServers_uses hP.toAsks hpub _

/-- What the flush of a draft writes. -/
structure Drafts (P : ∀ {β : Type}, BotStmt D β → Prop) (pending : Pending D) : Prop where
  update : ∀ old new, P (.execute (Pending.write (pending ++ dirtySubscription old new)))
  insert : ∀ new, P (.execute (pending.write.andThen (insertSubscription new)))

theorem deliver_uses (hP : Brings P settings) {pending : Pending D} (h : Drafts P pending)
    (draft : Draft) : (deliver settings pending draft).Uses P := by
  refine Prog.uses_bind ?_ fun sub => Prog.uses_bind (query_uses hP.asks _ _) fun servers =>
    syncSubscriptionToServers_uses hP sub servers
  cases draft with
  | update old new => exact Prog.uses_bind (flush_uses (h.update old new)) fun _ => trivial
  | insert new => exact execute_uses (h.insert new)

theorem applyPaidSubscription_uses (hP : Brings P settings) {pending : Pending D}
    (h : Drafts P (pending ++ [recordGrant payment])) (userId : Nat) (planDays : Int) :
    (applyPaidSubscription settings pending userId planDays payment).Uses P :=
  Prog.uses_bind (Prog.uses_perform hP.asks.clock) fun now =>
    Prog.uses_bind (paidDraft_uses hP.asks userId planDays now) fun draft =>
      deliver_uses hP h draft

theorem processSuccessfulPayment_uses (hP : Delivers P settings) (hcommit : P (.commit []))
    (h : ∀ payment : Payment, payment.provider = .stars →
      Drafts P ([insertPayment payment] ++ [recordGrant (.stars, payment.tgPaymentId)]))
    (tgId : Int) (planId : Nat) (chargeId : String) :
    (processSuccessfulPayment settings tgId planId chargeId).Uses P := by
  refine Prog.uses_bind (queryOne_uses hP.plain.toAsks _ _) fun user => ?_
  refine Prog.uses_bind (query_uses hP.plain.toAsks _ _) fun plan => ?_
  cases user with
  | none => trivial
  | some user =>
    cases plan with
    | none => trivial
    | some plan =>
      refine Prog.uses_bind (Prog.uses_perform hP.plain.clock) fun createdAt => ?_
      refine withLock_uses hP.plain (Prog.uses_bind ?_ fun _ => Prog.uses_perform hcommit)
      exact applyPaidSubscription_uses hP.brings
        (h ⟨0, user.id, chargeId, plan.days, .stars, none, createdAt⟩ rfl) _ _

theorem grantSubscription_uses (hP : Delivers P settings) (hcommit : P (.commit []))
    (h : Drafts P []) (tgId days : Int) : (grantSubscription settings tgId days).Uses P := by
  refine Prog.uses_bind (queryOne_uses hP.plain.toAsks _ _) fun user => ?_
  cases user with
  | none => trivial
  | some user =>
    refine Prog.uses_whenever fun _ => ?_
    refine Prog.uses_bind (Prog.uses_perform hP.plain.clock) fun now => ?_
    refine Prog.uses_bind (grantDraft_uses hP.plain _ _ _) fun draft => ?_
    exact Prog.uses_bind (deliver_uses hP.brings h draft) fun _ => Prog.uses_perform hcommit

theorem grantLifetimeSubscription_uses (hP : Delivers P settings) (hcommit : P (.commit []))
    (h : Drafts P []) (tgId : Int) : (grantLifetimeSubscription settings tgId).Uses P := by
  refine Prog.uses_bind (queryOne_uses hP.plain.toAsks _ _) fun user => ?_
  cases user with
  | none => trivial
  | some user =>
    refine Prog.uses_bind (Prog.uses_perform hP.plain.clock) fun now => ?_
    refine Prog.uses_bind (lifetimeDraft_uses hP.plain _ _) fun draft => ?_
    exact Prog.uses_bind (deliver_uses hP.brings h draft) fun _ => Prog.uses_perform hcommit

/-- What it takes to remove subscriptions for another reason than their expiry. -/
structure Removes (P : ∀ {β : Type}, BotStmt D β → Prop) (settings : ControlSettings D) :
    Prop where
  plain : Plain P
  publishes : Publishes P settings []
  removeClient : ∀ agent uuid, P (.call (.removeClient agent uuid none))
  commit : P (.commit [])

theorem endSubscription_uses (hP : Removes P settings) {pending : Pending D} {sub : Subscription}
    (hpending : ∀ now, P (.execute (Pending.write (pending ++
      dirtySubscription sub { sub with isActive := false, expiresAt := now })))) :
    (endSubscription settings pending sub).Uses P :=
  Prog.uses_bind (Prog.uses_perform hP.plain.clock) fun now =>
    removeSubscriptionFromServers_uses hP.plain hP.publishes hP.removeClient (hpending now) sub

theorem revokeSubscription_uses (hP : Removes P settings)
    (h : ∀ sub now, P (.execute (Pending.write
      (dirtySubscription sub { sub with isActive := false, expiresAt := now })))) (tgId : Int) :
    (revokeSubscription settings tgId).Uses P := by
  refine Prog.uses_bind (queryOne_uses hP.plain.toAsks _ _) fun user => ?_
  cases user with
  | none => trivial
  | some user =>
    refine Prog.uses_bind (queryOne_uses hP.plain.toAsks _ _) fun sub => ?_
    cases sub with
    | none => trivial
    | some sub =>
      have hend : (endSubscription settings [] sub).Uses P := endSubscription_uses hP (h sub)
      exact Prog.uses_bind hend fun _ => Prog.uses_perform hP.commit

theorem setUserBanStatus_uses (hP : Removes P settings)
    (huser : ∀ old new, P (.execute (Pending.write (dirtyUser old new))))
    (h : ∀ old new sub now, P (.execute (Pending.write (dirtyUser old new ++
      dirtySubscription sub { sub with isActive := false, expiresAt := now }))))
    (tgId : Int) (isBanned : Bool) : (setUserBanStatus settings tgId isBanned).Uses P := by
  refine Prog.uses_bind (queryOne_uses hP.plain.toAsks _ _) fun user => ?_
  cases user with
  | none => trivial
  | some user =>
    refine Prog.uses_bind ?_ fun sub => ?_
    · split
      · exact queryOne_uses hP.plain.toAsks _ _
      · trivial
    refine Prog.uses_bind ?_ fun _ => Prog.uses_perform hP.commit
    cases sub with
    | none => exact flush_uses (huser _ _)
    | some sub => exact endSubscription_uses hP (h _ _ sub)

theorem deleteAccount_uses (hP : Removes P settings) (hclean : P (.execute (Pending.write [])))
    (h : ∀ userId, P (.execute (Pending.write [deleteUser userId]))) (tgId : Int) :
    (deleteAccount settings tgId).Uses P := by
  refine Prog.uses_bind (queryOne_uses hP.plain.toAsks _ _) fun user => ?_
  cases user with
  | none => trivial
  | some user =>
    refine Prog.uses_bind (query_uses hP.plain.toAsks _ _) fun subs => ?_
    refine Prog.uses_bind (Prog.uses_foldlM () fun sub _ _ => ?_) fun _ => ?_
    · exact removeSubscriptionFromServers_uses hP.plain hP.publishes hP.removeClient hclean sub
    · exact Prog.uses_bind (flush_uses (h user.id)) fun _ => Prog.uses_perform hP.commit

theorem rotateSubscription_uses (hP : Delivers P settings) (hR : Removes P settings)
    (hclean : P (.execute (Pending.write [])))
    (h : ∀ old new : Subscription, new.isActive = old.isActive →
      P (.execute (Pending.write (dirtySubscription old new))))
    (sub : Subscription) : (rotateSubscription settings sub).Uses P := by
  refine Prog.uses_bind (removeSubscriptionFromServers_uses hP.plain hP.publishes hR.removeClient
    hclean sub) fun _ => ?_
  refine Prog.uses_bind (generateSubToken_uses hP.plain.toAsks _) fun token => ?_
  refine Prog.uses_bind (Prog.uses_perform hP.plain.ask) fun uuid => ?_
  refine Prog.uses_bind (flush_uses (h _ _ rfl)) fun _ => ?_
  refine Prog.uses_bind (query_uses hP.plain.toAsks _ _) fun servers => ?_
  exact Prog.uses_bind (syncSubscriptionToServers_uses hP.brings _ _) fun _ =>
    Prog.uses_perform hR.commit

theorem reissueSubscription_uses (hP : Delivers P settings) (hR : Removes P settings)
    (hrollback : P .rollback) (hclean : P (.execute (Pending.write [])))
    (h : ∀ old new : Subscription, new.isActive = old.isActive →
      P (.execute (Pending.write (dirtySubscription old new)))) (tgId : Int) :
    (reissueSubscription settings tgId).Uses P := by
  refine Prog.uses_bind (queryOne_uses hP.plain.toAsks _ _) fun user => ?_
  cases user with
  | none => trivial
  | some user =>
    refine Prog.uses_whenever fun _ => ?_
    refine Prog.uses_bind (Prog.uses_perform hP.plain.clock) fun now => ?_
    refine Prog.uses_bind (queryOne_uses hP.plain.toAsks _ _) fun sub => ?_
    cases sub with
    | none => trivial
    | some sub => exact orRollback_uses (rotateSubscription_uses hP hR hclean h sub) hrollback

theorem activateTrial_uses (hP : Delivers P settings) (hcommit : P (.commit []))
    (hrollback : P .rollback) (hinsert : ∀ user, P (.execute (insertUser user)))
    (h : ∀ old new, Drafts P (dirtyUser old new)) (tgId : Int) :
    (activateTrial settings tgId).Uses P := by
  refine Prog.uses_bind (Prog.uses_bind (queryOne_uses hP.plain.toAsks _ _) fun user => ?_)
    fun user => ?_
  · cases user with
    | none => exact execute_uses (hinsert _)
    | some user => trivial
  refine Prog.uses_whenever fun _ => ?_
  refine Prog.uses_bind (Prog.uses_perform hP.plain.clock) fun now => ?_
  refine Prog.uses_bind (queryOne_uses hP.plain.toAsks _ _) fun active => ?_
  cases active with
  | some _ => trivial
  | none =>
    refine Prog.uses_bind (trialDraft_uses hP.plain _ _) fun draft => ?_
    refine orRollback_uses ?_ hrollback
    exact Prog.uses_bind (deliver_uses hP.brings (h _ _) draft) fun _ => Prog.uses_perform hcommit

theorem checkExpired_uses (hP : Plain P)
    (hpub : ∀ subs : List Subscription, Publishes P settings
      (subs.flatMap fun sub => dirtySubscription sub { sub with isActive := false }))
    (hflush : ∀ subs : List Subscription, P (.execute (Pending.write
      (subs.flatMap fun sub => dirtySubscription sub { sub with isActive := false }))))
    (hcommit : ∀ next, P (.commit next))
    (hcall : ∀ agent uuid expired, P (.call (.removeClient agent uuid expired))) :
    (checkExpiredSubscriptions settings).Uses P := by
  refine Prog.uses_bind (Prog.uses_perform hP.clock) fun now => ?_
  refine Prog.uses_bind (query_uses hP.toAsks _ _) fun subs => Prog.uses_whenever fun _ => ?_
  refine Prog.uses_bind (query_uses hP.toAsks _ _) fun devices => ?_
  refine Prog.uses_bind (query_uses hP.toAsks _ _) fun servers => ?_
  refine Prog.uses_bind (publishForServers_uses hP.toAsks (hpub subs) _) fun _ => ?_
  refine Prog.uses_bind (flush_uses (hflush subs)) fun _ => ?_
  refine Prog.uses_bind (Prog.uses_perform (hcommit _)) fun _ => requestAll_uses fun c hc => ?_
  obtain ⟨sub, _, hc⟩ := List.mem_flatMap.1 hc
  obtain ⟨agent, uuid, rfl⟩ := removalCalls_mem hc
  exact hcall _ _ _

theorem collectLinks_uses (hP : Plain P) (hpub : Publishes P settings [])
    (hflush : ∀ sub : Subscription, P (.execute (Pending.write
      (dirtySubscription sub { sub with isActive := false }))))
    (hcommit : P (.commit []))
    (hcall : ∀ agent uuid expired, P (.call (.removeClient agent uuid expired)))
    (subToken : String) : (collectLinks settings subToken).Uses P := by
  refine Prog.uses_bind (queryOne_uses hP.toAsks _ _) fun sub => ?_
  cases sub with
  | none => trivial
  | some sub =>
    refine Prog.uses_bind (Prog.uses_perform hP.clock) fun now => ?_
    split
    · refine Prog.uses_bind ?_ fun _ => Prog.uses_bind (Prog.uses_perform hcommit) fun _ => trivial
      exact removeSubscriptionFromServers_uses hP hpub (fun agent uuid => hcall agent uuid _)
        (hflush sub) sub
    · trivial

end Uses

/-! ## Accounts -/

/-- Nothing changed but links, generations and snapshots. -/
structure SameAccounts (db db' : Db D) : Prop where
  users : db'.users = db.users
  subscriptions : db'.subscriptions = db.subscriptions
  devices : db'.devices = db.devices
  payments : db'.payments = db.payments
  plans : db'.plans = db.plans
  granted : db'.granted = db.granted

theorem SameAccounts.refl (db : Db D) : SameAccounts db db := ⟨rfl, rfl, rfl, rfl, rfl, rfl⟩

theorem SameAccounts.trans {a b c : Db D} (h : SameAccounts a b) (h' : SameAccounts b c) :
    SameAccounts a c :=
  ⟨h'.users.trans h.users, h'.subscriptions.trans h.subscriptions, h'.devices.trans h.devices,
    h'.payments.trans h.payments, h'.plans.trans h.plans, h'.granted.trans h.granted⟩

/-- The action takes a database to one that `E` allows, whether it succeeds or not. -/
def Preserves (E : Db D → Db D → Prop) (u : DbAct D α) : Prop := ∀ db, E db (u db).2

section Preserves
variable {E : Db D → Db D → Prop}

theorem Preserves.andThen (htrans : ∀ a b c, E a b → E b c → E a c) {a : DbAct D α}
    {b : DbAct D β} (ha : Preserves E a) (hb : Preserves E b) : Preserves E (a.andThen b) := by
  intro db
  have h := ha db
  unfold DbAct.andThen
  generalize a db = r at h
  obtain ⟨x, db'⟩ := r
  cases x with
  | error e => exact h
  | ok x => exact htrans _ _ _ h (hb db')

theorem Preserves.write (hrefl : ∀ d, E d d) (htrans : ∀ a b c, E a b → E b c → E a c)
    {pending : Pending D} (h : ∀ a ∈ pending, Preserves E a) : Preserves E pending.write := by
  induction pending with
  | nil => exact fun db => hrefl db
  | cons a rest ih =>
    exact .andThen htrans (h a List.mem_cons_self) (ih fun b hb => h b (List.mem_cons_of_mem _ hb))

end Preserves

theorem lockServer_same (serverId : Nat) :
    Preserves SameAccounts (lockServer serverId (D := D)) := by
  intro db
  unfold lockServer
  split <;> exact .refl db

theorem writeSnapshot_preserves [DecidableEq D] {settings : ControlSettings D}
    {E : Db D → Db D → Prop} (hrefl : ∀ d, E d d) (htrans : ∀ a b c, E a b → E b c → E a c)
    (hsame : ∀ a b, SameAccounts a b → E a b) {pending : Pending D}
    (h : Preserves E pending.write) (serverId : Nat) (now : Int) :
    Preserves E (writeSnapshot settings pending serverId now) := by
  intro db
  unfold writeSnapshot
  split
  · exact hrefl db
  split
  · exact hrefl db
  · exact h.andThen htrans (fun db' => hsame _ _ ⟨rfl, rfl, rfl, rfl, rfl, rfl⟩) db

theorem dirtyLink_same {a : DbAct D Unit} (h : a ∈ dirtyLink subId loaded result) :
    Preserves SameAccounts a := by
  unfold dirtyLink at h
  split at h
  · split at h
    · cases h
    · cases List.mem_singleton.1 h
      intro db
      unfold setLink
      split
      · exact ⟨rfl, rfl, rfl, rfl, rfl, rfl⟩
      · exact .refl db
  · cases List.mem_singleton.1 h
    intro db
    unfold insertLink
    split
    · exact .refl db
    · exact ⟨rfl, rfl, rfl, rfl, rfl, rfl⟩

/-! ## Procedures inside a transaction -/

section Procedures
variable {C : Contract (Db D) Source AgentCall ω} {op : ω}

theorem plain_frames (C : Contract (Db D) Source AgentCall ω) (E : Db D → Db D → Prop) :
    Plain (C.Frames E) where
  clock := ⟨rfl, trivial⟩
  ask := ⟨rfl, trivial⟩
  select _ _ := ⟨rfl, trivial⟩
  acquire _ := ⟨rfl, trivial⟩
  release _ := ⟨rfl, trivial⟩

theorem plain_quiet (C : Contract (Db D) Source AgentCall ω) (E : Db D → Db D → Prop) :
    Plain (C.Quiet E) :=
  ⟨⟨trivial, trivial, fun _ _ => trivial⟩, fun _ => trivial, fun _ => trivial⟩

theorem plain_noRollback : Plain (D := D) (NoRollback ·) :=
  ⟨⟨rfl, rfl, fun _ _ => rfl⟩, fun _ => rfl, fun _ => rfl⟩

theorem drafts_noRollback {pending : Pending D} : Drafts (NoRollback ·) pending :=
  ⟨fun _ _ => rfl, fun _ => rfl⟩

/-- A procedure that only reads leaves the view as it is. -/
theorem within_plain {p : BotProg D α} (h : p.Uses (C.Frames Eq)) :
    C.Within op p (fun _ v' n' => v' = v ∧ n ≤ n') db v n :=
  Contract.within_mono (Contract.within_of_uses (fun _ => rfl) (fun _ _ _ => Eq.trans) h)
    fun _ _ _ h => ⟨h.1.symm, h.2⟩

variable [DecidableEq D] {settings : ControlSettings D}

theorem publishes_frames {E : Db D → Db D → Prop} (hrefl : ∀ d, E d d)
    (htrans : ∀ a b c, E a b → E b c → E a c) (hsame : ∀ a b, SameAccounts a b → E a b)
    {pending : Pending D} (h : Preserves E pending.write) :
    Publishes (C.Frames E) settings pending where
  lock serverId := ⟨rfl, fun db => hsame _ _ (lockServer_same serverId db)⟩
  write serverId now := ⟨rfl, writeSnapshot_preserves hrefl htrans hsame h serverId now⟩

theorem delivers_noRollback : Delivers (NoRollback ·) settings where
  plain := plain_noRollback
  publishes := ⟨fun _ => rfl, fun _ _ => rfl⟩
  bulkAdd _ _ := rfl
  links _ _ _ := rfl

theorem publishes_same : Publishes (C.Frames SameAccounts) settings [] :=
  publishes_frames .refl (fun _ _ _ => .trans) (fun _ _ h => h) fun db => .refl db

theorem delivers_frames (hcall : ∀ agent clients, ¬ C.guarded (.bulkAdd agent clients)) :
    Delivers (C.Frames SameAccounts) settings where
  plain := plain_frames C _
  publishes := publishes_same
  bulkAdd agent clients := ⟨rfl, hcall agent clients⟩
  links subId loaded results := by
    refine ⟨rfl, Preserves.write .refl (fun _ _ _ => .trans) fun a ha => ?_⟩
    obtain ⟨result, _, ha⟩ := List.mem_flatMap.1 ha
    exact dirtyLink_same ha

theorem within_sync (hcall : ∀ agent clients, ¬ C.guarded (.bulkAdd agent clients))
    (sub : Subscription) (servers : List (Server D)) :
    C.Within op (syncSubscriptionToServers settings sub servers)
      (fun _ v' n' => SameAccounts v v' ∧ n ≤ n') db v n :=
  Contract.within_of_uses .refl (fun _ _ _ => .trans)
    (syncSubscriptionToServers_uses (delivers_frames hcall).brings sub servers)

theorem within_publish (serverIds : List Nat) :
    C.Within op (publishForServers settings [] serverIds)
      (fun _ v' n' => SameAccounts v v' ∧ n ≤ n') db v n :=
  Contract.within_of_uses .refl (fun _ _ _ => .trans)
    (publishForServers_uses (plain_frames C _).toAsks publishes_same serverIds)

theorem within_deliver {Q : Unit → Db D → Int → Prop}
    (hcall : ∀ agent clients, ¬ C.guarded (.bulkAdd agent clients))
    {pending : Pending D} {draft : Draft}
    (h : ∀ sub v' n', n ≤ n' → (draft.write pending v).1 = .ok sub →
      SameAccounts (draft.write pending v).2 v' → Q () v' n') :
    C.Within op (deliver settings pending draft) Q db v n := by
  have hrest : ∀ sub v₁ n₁, n ≤ n₁ → draft.write pending v = (.ok sub, v₁) →
      C.Within op ((accessibleServersForUser sub.userId).bind
        (syncSubscriptionToServers settings sub)) Q db v₁ n₁ := by
    intro sub v₁ n₁ hn hw
    refine Contract.within_bind (within_query fun n₂ hn₂ d _ => ?_)
    refine Contract.within_mono (within_sync hcall _ _) fun _ v' n' ⟨hs, hn'⟩ => ?_
    exact h sub v' n' (by omega) (by rw [hw]) (by rw [hw]; exact hs)
  refine Contract.within_bind ?_
  cases draft with
  | update old new =>
    refine Contract.within_bind (within_flush (fun hnil => ?_) fun n₁ hn₁ hok => ?_)
    · refine Contract.within_ret (hrest new v n (Int.le_refl n) ?_)
      simp only [Draft.write, hnil]
      rfl
    · refine Contract.within_ret (hrest new _ n₁ hn₁ ?_)
      simp only [Draft.write, DbAct.andThen]
      generalize Pending.write (pending ++ dirtySubscription old new) v = r at hok
      obtain ⟨x, v'⟩ := r
      cases hok
      rfl
  | insert new =>
    exact within_execute fun n₁ hn₁ sub hok => hrest sub _ n₁ hn₁ (Prod.ext hok rfl)

/-! ## What follows a rollback -/

theorem confirm_afterRollback {X : BotProg D Bool → Prop} (h : X (.ret false))
    (payment : Payment) : (confirmPlategaPayment settings payment).AfterRollback X := by
  have hplain : Plain (D := D) (NoRollback ·) := plain_noRollback
  refine Prog.afterRollback_bind (Prog.afterRollback_of_uses (execute_uses rfl)) fun claimed => ?_
  split
  · refine Prog.afterRollback_of_uses (Prog.uses_bind (query_uses hplain.toAsks _ _) fun user => ?_)
    split
    · refine Prog.uses_bind (withLock_uses hplain (Prog.uses_bind ?_ fun _ => ?_)) fun _ => trivial
      · exact applyPaidSubscription_uses delivers_noRollback.brings drafts_noRollback _ _
      · exact Prog.uses_perform rfl
    · exact Prog.uses_bind (Prog.uses_perform rfl) fun _ => trivial
  · exact fun _ => ⟨fun _ => h, trivial⟩

omit [DecidableEq D] in
theorem orRollback_afterRollback {X : BotProg D Unit → Prop} (h : X (.ret ()))
    {p : BotProg D Unit} (hp : p.Uses (NoRollback ·)) : (orRollback p).AfterRollback X := by
  refine Prog.afterRollback_bind (Prog.afterRollback_of_uses (attempt_uses hp)) fun done => ?_
  cases done with
  | ok _ => trivial
  | error _ => exact fun _ => ⟨fun _ => h, trivial⟩

theorem activateTrial_afterRollback {X : BotProg D Unit → Prop} (h : X (.ret ())) (tgId : Int) :
    (activateTrial settings tgId).AfterRollback X := by
  have hplain : Plain (D := D) (NoRollback ·) := plain_noRollback
  have huser : (trialUser tgId : BotProg D User).Uses (NoRollback ·) := by
    refine Prog.uses_bind (queryOne_uses hplain.toAsks _ _) fun user => ?_
    cases user with
    | none => exact execute_uses rfl
    | some user => trivial
  refine Prog.afterRollback_bind (Prog.afterRollback_of_uses huser) fun user => ?_
  simp only [Prog.whenever]
  split
  · refine Prog.afterRollback_bind (Prog.afterRollback_of_uses (Prog.uses_perform hplain.clock))
      fun now => ?_
    refine Prog.afterRollback_bind (Prog.afterRollback_of_uses (queryOne_uses hplain.toAsks _ _))
      fun active => ?_
    cases active with
    | some _ => trivial
    | none =>
      refine Prog.afterRollback_bind (Prog.afterRollback_of_uses (trialDraft_uses hplain _ _))
        fun draft => orRollback_afterRollback h ?_
      exact Prog.uses_bind (deliver_uses delivers_noRollback.brings drafts_noRollback _) fun _ =>
        Prog.uses_perform noRollback_commit
  · trivial

theorem plategaCallback_afterRollback {X : BotProg D Unit → Prop} (h : X (.ret ()))
    (txId : String) (status : PlategaStatus) :
    (plategaCallback settings txId status).AfterRollback X := by
  have hplain : Plain (D := D) (NoRollback ·) := plain_noRollback
  have hstatus : ∀ (payment : Payment) (stored : PaymentStatus),
      (Prog.whenever (payment.status ≠ some .confirmed) do
        flush (if payment.status = some stored then [] else
          [setPaymentStatus payment.id stored])
        commit [] : BotProg D Unit).AfterRollback X := fun payment stored =>
    Prog.afterRollback_of_uses (Prog.uses_whenever fun _ =>
      Prog.uses_bind (flush_uses rfl) fun _ => Prog.uses_perform rfl)
  cases status with
  | other => trivial
  | confirmed =>
    refine Prog.afterRollback_bind (Prog.afterRollback_of_uses (queryOne_uses hplain.toAsks _ _))
      fun payment => ?_
    cases payment with
    | none => trivial
    | some payment =>
      exact Prog.afterRollback_bind (confirm_afterRollback h payment) fun _ => trivial
  | chargebacked =>
    refine Prog.afterRollback_bind (Prog.afterRollback_of_uses (queryOne_uses hplain.toAsks _ _))
      fun payment => ?_
    cases payment with
    | none => trivial
    | some payment => exact hstatus payment .chargeback
  | canceled =>
    refine Prog.afterRollback_bind (Prog.afterRollback_of_uses (queryOne_uses hplain.toAsks _ _))
      fun payment => ?_
    cases payment with
    | none => trivial
    | some payment => exact hstatus payment .canceled

theorem reconcileRow_afterRollback {X : BotProg D Unit → Prop} (h : X (.ret ()))
    (row : Payment) : (reconcileRow settings row).AfterRollback X := by
  have hplain : Plain (D := D) (NoRollback ·) := plain_noRollback
  refine Prog.afterRollback_bind (Prog.afterRollback_of_uses (Prog.uses_perform hplain.ask))
    fun text => ?_
  cases plategaStatus text with
  | other => trivial
  | _ =>
    refine Prog.afterRollback_bind (Prog.afterRollback_of_uses (query_uses hplain.toAsks _ _))
      fun payment => ?_
    cases payment with
    | none => exact fun _ => ⟨fun _ => h, trivial⟩
    | some payment =>
      dsimp only
      split
      · first
        | exact Prog.afterRollback_bind (confirm_afterRollback h payment.unread) fun _ => trivial
        | exact Prog.afterRollback_of_uses
            (Prog.uses_bind (flush_uses rfl) fun _ => Prog.uses_perform rfl)
      · exact fun _ => ⟨fun _ => h, trivial⟩

theorem reconcilePending_afterRollback {X : BotProg D Unit → Prop}
    (h : ∀ rows : List Payment, X (rows.foldlM (fun _ row => reconcileRow settings row) ())) :
    (reconcilePendingPlatega settings).AfterRollback X := by
  have hplain : Plain (D := D) (NoRollback ·) := plain_noRollback
  have hrows : ∀ rows : List Payment,
      (rows.foldlM (fun _ row => reconcileRow settings row) () : BotProg D Unit).AfterRollback
        X := by
    intro rows
    induction rows with
    | nil => trivial
    | cons row rows ih =>
      rw [List.foldlM_cons]
      refine Prog.afterRollback_bind ?_ fun _ => ih
      refine reconcileRow_afterRollback ?_ row
      exact h rows
  refine Prog.afterRollback_bind (Prog.afterRollback_of_uses (Prog.uses_perform hplain.clock))
    fun now => ?_
  refine Prog.afterRollback_bind (Prog.afterRollback_of_uses (query_uses hplain.toAsks _ _))
    fun pending => ?_
  exact fun _ => ⟨fun _ => h pending, hrows pending⟩

end Procedures

end AegisVPN
