import AegisVPN.Bot.Bootstrap

namespace AegisVPN
open Library
set_option autoImplicit true

/-! # The starts of the bot among the changes of its plans and servers -/

/-! ## Changes -/

/-- What the script that registers a server is called with. -/
structure RegisterArgs where
  name : String
  flag : String
  host : String
  port : Int
  publicKey : String
  shortId : String
  agentUrl : String
  agentToken : String
  subscriptionGroup : String
  accessMode : String
  isActive : Bool
  countryCode : Option String
  displayOrder : Int
  tcpPort : Option Int
  controlMode : String
  controlTokenHash : Option String
  controlCertFingerprint : Option String

/-- The row that the script looks for. -/
def RegisterArgs.isNode (args : RegisterArgs) (server : NodeRow) : Bool :=
  decide (server.agentUrl = args.agentUrl) && decide (server.name = args.name) &&
    decide (server.port = args.port) && decide (server.subscriptionGroup = args.subscriptionGroup)

def RegisterArgs.row (args : RegisterArgs) (id : Nat) : NodeRow :=
  ⟨id, args.name, args.flag, args.host, args.port, args.publicKey, args.shortId, args.agentUrl,
    args.agentToken, args.accessMode, args.subscriptionGroup, args.isActive, args.tcpPort,
    args.countryCode, args.displayOrder, args.controlMode, args.controlTokenHash,
    args.controlCertFingerprint⟩

/-- The row keeps its address, and what the script is not given. -/
def RegisterArgs.update (args : RegisterArgs) (server : NodeRow) : NodeRow :=
  { args.row server.id with
    agentUrl := server.agentUrl
    countryCode := args.countryCode.or server.countryCode
    controlTokenHash := args.controlTokenHash.or server.controlTokenHash
    controlCertFingerprint := args.controlCertFingerprint.or server.controlCertFingerprint }

def RegisterArgs.fits (columns : ColumnTypes) (args : RegisterArgs) : Bool :=
  columns.int args.port && columns.int args.displayOrder && args.tcpPort.all columns.int

/-- Another row has the fingerprint of the certificate. -/
def fingerprintTaken (servers : List NodeRow) (row : NodeRow) : Bool :=
  servers.any fun server => decide (server.id ≠ row.id) && row.controlCertFingerprint.isSome &&
    decide (server.controlCertFingerprint = row.controlCertFingerprint)

/-- The script ends without a change at an error. -/
def registerServer (columns : ColumnTypes) (args : RegisterArgs) (db : BootDb) : BootDb :=
  if args.controlMode ∉ ["push", "observe", "pull"] then db
  else if !args.fits columns then db
  else match db.servers.find? args.isNode with
  | none =>
    if fingerprintTaken db.servers (args.row db.nextServer) then db
    else { db with
      servers := db.servers ++ [args.row db.nextServer]
      nextServer := db.nextServer + 1 }
  | some server =>
    if fingerprintTaken db.servers (args.update server) then db
    else { db with servers := setFirst args.isNode args.update db.servers }

/-- The prices that the handlers of the admin take. -/
def pricesTaken (columns : ColumnTypes) (stars rub : Int) : Bool :=
  decide (0 ≤ stars) && decide (0 ≤ rub) && (decide (stars ≠ 0) || decide (rub ≠ 0)) &&
    columns.int stars && columns.int rub

def rubPriceOf (rub : Int) : Option Int := if rub = 0 then none else some rub

def createPlan (columns : ColumnTypes) (days stars rub : Int) (db : BootDb) : BootDb :=
  if days ≤ 0 then db
  else if !columns.int days || !pricesTaken columns stars rub then db
  else { db with
    plans := db.plans ++ [⟨db.nextPlan, days, stars, rubPriceOf rub, true, false⟩]
    nextPlan := db.nextPlan + 1 }

def editPlan (columns : ColumnTypes) (id : Nat) (stars rub : Int) (db : BootDb) : BootDb :=
  if !pricesTaken columns stars rub then db
  else { db with
    plans := db.plans.map fun plan =>
      if plan.id = id then { plan with starsPrice := stars, rubPrice := rubPriceOf rub }
      else plan }

def deletePlan (id : Nat) (db : BootDb) : BootDb :=
  { db with plans := db.plans.filter fun plan => plan.id ≠ id }

/-- Of the plans only this one is the base, if there is such a plan. -/
def flagBasePlan (id : Nat) (db : BootDb) : BootDb :=
  if db.plans.any fun plan => plan.id = id then
    { db with plans := db.plans.map fun plan => { plan with isBase := decide (plan.id = id) } }
  else db

inductive BootOp
  | createPlan (days stars rub : Int)
  | editPlan (id : Nat) (stars rub : Int)
  | deletePlan (id : Nat)
  | setBasePlan (id : Nat)
  | registerServer (args : RegisterArgs)
  | boot (config : BootConfig)

def BootDb.exec (columns : ColumnTypes) (db : BootDb) : BootOp → BootDb
  | .createPlan days stars rub => createPlan columns days stars rub db
  | .editPlan id stars rub => editPlan columns id stars rub db
  | .deletePlan id => deletePlan id db
  | .setBasePlan id => flagBasePlan id db
  | .registerServer args => registerServer columns args db
  | .boot config => (bootstrap columns config db).1

def emptyBootDb : BootDb := ⟨[], [], 1, 1⟩

/-- The database after some changes of an empty one. -/
def BootDb.after (columns : ColumnTypes) (ops : List BootOp) : BootDb :=
  ops.foldl (BootDb.exec columns) emptyBootDb

/-! ## Changes that leave one row each -/

def countNode (servers : List NodeRow) (url name : String) : Nat :=
  servers.countP fun server => decide (server.agentUrl = url) && decide (server.name = name)

/-- No two plans are of one duration, and no two servers have one address and one name. -/
structure BootDb.OneEach (db : BootDb) : Prop where
  plans : ∀ days, countDays db.plans days ≤ 1
  servers : ∀ url name, countNode db.servers url name ≤ 1

/-- A plan is created for a duration that no plan has, a new server has an address and a name that
no server has, and a start does not add a duration twice. -/
def BootOp.Tidy (db : BootDb) : BootOp → Prop
  | .createPlan days _ _ => countDays db.plans days = 0
  | .registerServer args => db.servers.any args.isNode = true ∨
      countNode db.servers args.agentUrl args.name = 0
  | .boot config => Unrepeated (planTerms config.plans) db.plans
  | _ => True

/-- All changes of a run are of this kind. -/
def TidyRun (columns : ColumnTypes) (db : BootDb) : List BootOp → Prop
  | [] => True
  | op :: ops => op.Tidy db ∧ TidyRun columns (db.exec columns op) ops

/-- The values of the configuration fit the columns, and the port of the agent is a number. -/
structure FitConfig (columns : ColumnTypes) (config : BootConfig) : Prop where
  terms : ∀ terms ∈ planTerms config.plans,
    columns.int terms.days = true ∧ columns.int terms.starsPrice = true
  server : config.serverEnabled = true → ∀ values ∈ config.agentValues,
    ∃ port ∈ pyInt values.xrayPort.toList, config.fits columns values port = true

theorem plansAfter_one {all : List PlanTerms} {db : BootDb}
    (h : ∀ days, countDays db.plans days ≤ 1) (hunrepeated : Unrepeated all db.plans) (days : Int) :
    countDays (plansAfter all db).plans days ≤ 1 := by
  rw [countDays_plansAfter]
  by_cases hzero : countDays db.plans days = 0
  · rw [if_pos hzero]
    by_cases hterms : ∃ terms ∈ all, terms.days = days
    · obtain ⟨terms, hmem, rfl⟩ := hterms
      exact hunrepeated terms hmem hzero
    · rw [List.countP_eq_zero.2]
      · exact Nat.zero_le 1
      · intro terms hmem hdays
        exact hterms ⟨terms, hmem, of_decide_eq_true hdays⟩
  · rw [if_neg hzero]
    exact h days

theorem withDefault_one {db : BootDb} (h : ∀ days, countDays db.plans days ≤ 1) (days : Int) :
    countDays (withDefault db).plans days ≤ 1 := by
  rw [withDefault]
  split
  · exact h days
  · split
    · rw [countDays_addPlans, List.countP_singleton]
      by_cases hdays : days = 30
      · subst hdays
        rw [‹countDays db.plans 30 = 0›]
        split <;> decide
      · rw [if_neg, Nat.add_zero]
        · exact h days
        · rw [Bool.not_eq_true, decide_eq_false_iff_not]
          exact Ne.symm hdays
    · exact ((countDays_map activated_days db.plans days).le).trans (h days)

theorem setFirst_none {p : α → Bool} {f : α → α} (h : ∀ y ∈ l, p y = false) :
    setFirst p f l = l := by
  induction l with
  | nil => rfl
  | cons y l ih =>
    obtain ⟨hy, hl⟩ := List.forall_mem_cons.1 h
    rw [setFirst, if_neg (by simp [hy]), ih hl]

theorem countP_setFirst_le {p q : α → Bool} {f : α → α}
    (h : ∀ a, p a = true → q (f a) = true → q a = true) (l : List α) :
    (setFirst p f l).countP q ≤ l.countP q := by
  rcases split_first p l with hnone | ⟨a, x, b, rfl, ha, hx⟩
  · rw [setFirst_none hnone]
  · rw [setFirst_split ha hx, List.countP_append, List.countP_append, List.countP_cons,
      List.countP_cons]
    have hone : (if q (f x) = true then 1 else 0) ≤ if q x = true then 1 else 0 := by
      by_cases hq : q (f x) = true
      · rw [if_pos hq, if_pos (h x hx hq)]
      · rw [if_neg hq]
        exact Nat.zero_le _
    omega

theorem countP_setFirst_one {p q : α → Bool} {f : α → α} (h : l.countP q = 0) :
    (setFirst p f l).countP q ≤ 1 := by
  rcases split_first p l with hnone | ⟨a, x, b, rfl, ha, hx⟩
  · rw [setFirst_none hnone, h]
    exact Nat.zero_le 1
  · rw [List.countP_append, List.countP_cons] at h
    rw [setFirst_split ha hx, List.countP_append, List.countP_cons]
    have hone : (if q (f x) = true then 1 else 0) ≤ 1 := by split <;> decide
    omega

theorem countNode_isServer (config : BootConfig) (servers : List NodeRow) :
    servers.countP config.isServer =
      countNode servers config.serverAgentUrl config.serverName := rfl

/-- The start leaves one row for each address and name. -/
theorem placed_one {config : BootConfig} {set : NodeRow → NodeRow} {db db' : BootDb}
    (hset : ∀ server, (set server).agentUrl = config.serverAgentUrl ∧
      (set server).name = config.serverName)
    (h : ∀ url name, countNode db.servers url name ≤ 1) (hplaced : config.placed set db = some db')
    (url name : String) : db'.plans = db.plans ∧ countNode db'.servers url name ≤ 1 := by
  have hother : ∀ server, ¬ (url = config.serverAgentUrl ∧ name = config.serverName) →
      (decide ((set server).agentUrl = url) && decide ((set server).name = name)) = false := by
    intro server hne
    rw [(hset server).1, (hset server).2, Bool.and_eq_false_iff, decide_eq_false_iff_not,
      decide_eq_false_iff_not, ← not_and_or]
    exact fun hboth => hne ⟨hboth.1.symm, hboth.2.symm⟩
  have hzero : db.servers.filter config.isServer = [] →
      countNode db.servers config.serverAgentUrl config.serverName = 0 := by
    intro hempty
    rw [← countNode_isServer, List.countP_eq_length_filter, hempty, List.length_nil]
  rw [BootConfig.placed] at hplaced
  split at hplaced
  · split at hplaced
    · cases hplaced
      refine ⟨rfl, ?_⟩
      by_cases hkey : url = config.serverAgentUrl ∧ name = config.serverName
      · rw [hkey.1, hkey.2]
        exact countP_setFirst_one (hzero ‹_›)
      · refine (countP_setFirst_le (fun server _ hq => ?_) db.servers).trans (h url name)
        rw [hother server hkey] at hq
        cases hq
    · cases hplaced
      refine ⟨rfl, ?_⟩
      rw [countNode, List.countP_append, List.countP_singleton]
      by_cases hkey : url = config.serverAgentUrl ∧ name = config.serverName
      · have hnone := hzero ‹_›
        rw [countNode] at hnone
        rw [hkey.1, hkey.2, hnone, Nat.zero_add]
        split <;> decide
      · rw [hother _ hkey, if_neg Bool.false_ne_true, Nat.add_zero]
        exact h url name
  · cases hplaced
    refine ⟨rfl, (countP_setFirst_le (fun server hserver hq => ?_) db.servers).trans (h url name)⟩
    by_cases hkey : url = config.serverAgentUrl ∧ name = config.serverName
    · rw [hkey.1, hkey.2]
      exact hserver
    · rw [hother server hkey] at hq
      cases hq
  · cases hplaced

theorem bootstrapServer_one {columns : ColumnTypes} {config : BootConfig} {db db' : BootDb}
    (h : db.OneEach) (hstep : bootstrapServer columns config db = some db') : db'.OneEach := by
  rw [bootstrapServer] at hstep
  split at hstep
  · cases hstep
    exact h
  · split at hstep
    · cases hstep
      exact h
    · rename_i values hvalues
      obtain ⟨port, hport, hplaced⟩ := Option.bind_eq_some_iff.1 hstep
      split at hplaced
      · have hone := placed_one (fun server => ⟨rfl, rfl⟩) h.servers hplaced
        exact
          { plans := (hone "" "").1 ▸ h.plans
            servers := fun url name => (hone url name).2 }
      · cases hplaced

theorem bootstrap_one {columns : ColumnTypes} {config : BootConfig} {db : BootDb}
    (h : db.OneEach) (hunrepeated : Unrepeated (planTerms config.plans) db.plans) :
    (bootstrap columns config db).1.OneEach := by
  by_cases hterms : PlansFit columns (planTerms config.plans) db.plans
  · have hplans : (plansAfter (planTerms config.plans) db).OneEach :=
      { plans := plansAfter_one h.plans hunrepeated
        servers := h.servers }
    have hwith : (withDefault (plansAfter (planTerms config.plans) db)).OneEach :=
      { plans := withDefault_one hplans.plans
        servers := by
          rw [withDefault_servers]
          exact h.servers }
    by_cases hdefault : DefaultFound (plansAfter (planTerms config.plans) db).plans
    · rw [bootstrap_found hterms hdefault]
      cases hserver : bootstrapServer columns config
        (withDefault (plansAfter (planTerms config.plans) db)) with
      | none => exact hwith
      | some db' => exact bootstrapServer_one hwith hserver
    · rw [bootstrap, bootstrapPlans_found hterms]
      dsimp only
      rw [ensureDefault_none hdefault]
      exact hplans
  · rw [bootstrap, bootstrapPlans_none hterms]
    exact h

theorem registerServer_one {columns : ColumnTypes} {args : RegisterArgs} {db : BootDb}
    (h : db.OneEach) (htidy : (BootOp.registerServer args).Tidy db) :
    (registerServer columns args db).OneEach := by
  rw [registerServer]
  split
  · exact h
  · split
    · exact h
    · split
      · rename_i hfind
        split
        · exact h
        · refine { plans := h.plans, servers := fun url name => ?_ }
          rw [countNode, List.countP_append, List.countP_singleton]
          by_cases hkey : url = args.agentUrl ∧ name = args.name
          · have hzero : countNode db.servers args.agentUrl args.name = 0 := by
              refine htidy.resolve_left fun hany => ?_
              obtain ⟨server, hserver, hnode⟩ := List.any_eq_true.1 hany
              exact List.find?_eq_none.1 hfind server hserver hnode
            rw [countNode] at hzero
            rw [hkey.1, hkey.2, hzero, Nat.zero_add]
            split <;> decide
          · rw [if_neg, Nat.add_zero]
            · exact h.servers url name
            · rw [Bool.and_eq_true, decide_eq_true_eq, decide_eq_true_eq]
              exact fun hboth => hkey ⟨hboth.1.symm, hboth.2.symm⟩
      · split
        · exact h
        · refine { plans := h.plans, servers := fun url name => ?_ }
          refine (countP_setFirst_le (fun server hnode hq => ?_) db.servers).trans
            (h.servers url name)
          rw [RegisterArgs.isNode, Bool.and_eq_true, Bool.and_eq_true, Bool.and_eq_true,
            decide_eq_true_eq, decide_eq_true_eq] at hnode
          have hname : (args.update server).name = server.name := hnode.1.1.2.symm
          rw [hname] at hq
          exact hq

theorem createPlan_one {columns : ColumnTypes} {days stars rub : Int} {db : BootDb}
    (h : db.OneEach) (htidy : countDays db.plans days = 0) :
    (createPlan columns days stars rub db).OneEach := by
  rw [createPlan]
  split
  · exact h
  · split
    · exact h
    · refine { plans := fun other => ?_, servers := h.servers }
      rw [countDays, List.countP_append, List.countP_singleton, ← countDays]
      by_cases hdays : days = other
      · rw [← hdays, htidy, Nat.zero_add]
        split <;> decide
      · rw [if_neg (by simpa using hdays), Nat.add_zero]
        exact h.plans other

theorem map_plans_one {f : TariffRow → TariffRow} {db : BootDb} (h : db.OneEach)
    (hf : ∀ plan, (f plan).days = plan.days) :
    BootDb.OneEach { db with plans := db.plans.map f } :=
  { plans := fun days => (countDays_map hf db.plans days).le.trans (h.plans days)
    servers := h.servers }

theorem exec_one {columns : ColumnTypes} {db : BootDb} (h : db.OneEach) {op : BootOp}
    (htidy : op.Tidy db) : (db.exec columns op).OneEach := by
  cases op with
  | createPlan days stars rub => exact createPlan_one h htidy
  | editPlan id stars rub =>
    rw [BootDb.exec, editPlan]
    split
    · exact h
    · apply map_plans_one h
      intro plan
      split <;> rfl
  | deletePlan id =>
    exact
      { plans := fun days => (List.filter_sublist.countP_le).trans (h.plans days)
        servers := h.servers }
  | setBasePlan id =>
    rw [BootDb.exec, flagBasePlan]
    split
    · exact map_plans_one h fun _ => rfl
    · exact h
  | registerServer args => exact registerServer_one h htidy
  | boot config => exact bootstrap_one h htidy

theorem run_one {columns : ColumnTypes} (ops : List BootOp) {db : BootDb} (h : db.OneEach)
    (htidy : TidyRun columns db ops) : (ops.foldl (BootDb.exec columns) db).OneEach := by
  induction ops generalizing db with
  | nil => exact h
  | cons op ops ih => exact ih (exec_one h htidy.1) htidy.2

theorem emptyBootDb_one : emptyBootDb.OneEach :=
  { plans := fun _ => Nat.zero_le 1
    servers := fun _ _ => Nat.zero_le 1 }

theorem BootDb.OneEach.bootable {columns : ColumnTypes} {config : BootConfig} {db : BootDb}
    (h : db.OneEach) (hfit : FitConfig columns config)
    (hunrepeated : Unrepeated (planTerms config.plans) db.plans) : Bootable columns config db :=
  { terms := fun terms hterms =>
      ⟨(hfit.terms terms hterms).1, h.plans terms.days⟩
    prices := pricesFit_of_terms (fun terms hterms => (hfit.terms terms hterms).2) _
    unrepeated := hunrepeated
    default := .inr (.inr (h.plans 30))
    server := fun henabled values hvalues =>
      ⟨hfit.server henabled values hvalues, h.servers config.serverAgentUrl config.serverName⟩ }

/-- After any changes of an empty database the bot starts well just where the queries of the start
find one row at most. After tidy changes they do for all values that fit. -/
theorem boots_after (columns : ColumnTypes) (ops : List BootOp) (config : BootConfig) :
    (BootsWell columns config (BootDb.after columns ops) ↔
      Bootable columns config (BootDb.after columns ops)) ∧
    (TidyRun columns emptyBootDb ops → FitConfig columns config →
      Unrepeated (planTerms config.plans) (BootDb.after columns ops).plans →
      BootsWell columns config (BootDb.after columns ops)) := by
  refine ⟨bootsWell_iff columns config _, fun htidy hfit hunrepeated => ?_⟩
  exact ((run_one ops emptyBootDb_one htidy).bootable hfit hunrepeated).bootsWell

/-- Columns for whole numbers of 64 bits and texts of any length. -/
def wideColumns : ColumnTypes where
  int n := decide (-9223372036854775808 ≤ n) && decide (n < 9223372036854775808)
  text _ _ := true
  small := by
    intro n hlow hhigh
    rw [Bool.and_eq_true, decide_eq_true_eq, decide_eq_true_eq]
    omega

def monthlyConfig : BootConfig :=
  ⟨[⟨some 30, some 100, some true⟩], false, "Main", "VPN", "http://127.0.0.1:8444", "safe", none⟩

/-- Two plans of thirty days, as the admin may create them, stop the next start. -/
theorem second_plan_stops_boot : ¬ BootsWell wideColumns monthlyConfig
    (BootDb.after wideColumns [.createPlan 30 100 0, .createPlan 30 200 0]) := by
  rintro ⟨hfirst, -⟩
  revert hfirst
  decide

end AegisVPN
