import AegisVPN.Library.EditedLists
import AegisVPN.Library.PyInts

namespace AegisVPN
open Library
set_option autoImplicit true

/-! # The plans and the server at the start of the bot -/

/-! ## The database -/

/-- What the columns of the database hold. -/
structure ColumnTypes where
  int : Int → Bool
  text : Nat → String → Bool
  small : ∀ n, 0 ≤ n → n ≤ 1000 → int n = true

structure TariffRow where
  id : Nat
  days : Int
  starsPrice : Int
  rubPrice : Option Int
  isActive : Bool
  isBase : Bool
  deriving DecidableEq

structure NodeRow where
  id : Nat
  name : String
  flag : String
  host : String
  port : Int
  publicKey : String
  shortId : String
  agentUrl : String
  agentToken : String
  accessMode : String
  subscriptionGroup : String
  isActive : Bool
  tcpPort : Option Int
  countryCode : Option String
  displayOrder : Int
  controlMode : String
  controlTokenHash : Option String
  controlCertFingerprint : Option String
  deriving DecidableEq

/-- The tables, with the numbers that their next rows get. -/
structure BootDb where
  plans : List TariffRow
  servers : List NodeRow
  nextPlan : Nat
  nextServer : Nat
  deriving DecidableEq

/-! ## Plans -/

/-- An object of `BOOTSTRAP_PLANS_JSON`. -/
structure PlanItem where
  days : Option Int
  starsPrice : Option Int
  isActive : Option Bool
  deriving DecidableEq

/-- What an object says of a plan, with the defaults. -/
structure PlanTerms where
  days : Int
  starsPrice : Int
  isActive : Bool
  deriving DecidableEq

def PlanItem.terms (item : PlanItem) : PlanTerms :=
  ⟨item.days.getD 0, item.starsPrice.getD 0, item.isActive.getD true⟩

/-- The plan takes the terms. -/
def TariffRow.withTerms (plan : TariffRow) (terms : PlanTerms) : TariffRow :=
  { plan with starsPrice := terms.starsPrice, isActive := terms.isActive }

/-- One object is looked at. The session does not flush, so that a query finds the rows that were
there, but not those that were added. A duration that does not fit cannot be asked for. -/
def bootstrapPlan (columns : ColumnTypes) (state : List TariffRow × List PlanTerms)
    (item : PlanItem) : Option (List TariffRow × List PlanTerms) :=
  let terms := item.terms
  if terms.days ≤ 0 ∨ terms.starsPrice ≤ 0 then some state
  else if !columns.int terms.days then none
  else match state.1.filter fun plan => plan.days = terms.days with
  | [] => some (state.1, state.2 ++ [terms])
  | [_] => some (state.1.map fun plan =>
      if plan.days = terms.days then plan.withTerms terms else plan, state.2)
  | _ => none

/-- The rows that are added get the next numbers. -/
def addPlans (db : BootDb) (added : List PlanTerms) : BootDb :=
  { db with
    plans := db.plans ++ added.zipIdx.map fun entry =>
      ⟨db.nextPlan + entry.2, entry.1.days, entry.1.starsPrice, none, entry.1.isActive, false⟩
    nextPlan := db.nextPlan + added.length }

/-- The prices that the commit writes fit: those of the rows that are added, and those that are
others in the end than they were. -/
def pricesFit (columns : ColumnTypes) (before after : List TariffRow) (added : List PlanTerms) :
    Bool :=
  (added.all fun terms => columns.int terms.starsPrice) &&
    (before.zip after).all fun p =>
      p.2.starsPrice == p.1.starsPrice || columns.int p.2.starsPrice

/-- Without a result a query has found several plans, or a value does not fit. -/
def bootstrapPlans (columns : ColumnTypes) (items : List PlanItem) (db : BootDb) :
    Option BootDb := do
  let (plans, added) ← items.foldlM (bootstrapPlan columns) (db.plans, [])
  if pricesFit columns db.plans plans added then
    some (addPlans { db with plans := plans } added)
  else none

def ensureDefaultPlanExists (db : BootDb) : Option BootDb :=
  if db.plans.any TariffRow.isActive then some db
  else match db.plans.filter fun plan => plan.days = 30 with
  | [] => some (addPlans db [⟨30, 100, true⟩])
  | [_] => some { db with
      plans := db.plans.map fun plan =>
        if plan.days = 30 then { plan with isActive := true } else plan }
  | _ => none

/-! ## The server -/

structure BootConfig where
  plans : List PlanItem
  serverEnabled : Bool
  serverName : String
  serverFlag : String
  serverAgentUrl : String
  serverSubscriptionGroup : String
  agentEnv : Option (List (String × String))

/-- The values of the agent that the start requires. -/
structure AgentValues where
  hostIp : String
  xrayPort : String
  publicKey : String
  shortId : String
  agentToken : String

/-- A value of the file that is there and not empty. -/
def envValue (env : List (String × String)) (key : String) : Option String :=
  (env.lookup key).filter fun value => value ≠ ""

def BootConfig.agentValues (config : BootConfig) : Option AgentValues := do
  let env ← config.agentEnv
  let hostIp ← envValue env "HOST_IP"
  let xrayPort ← envValue env "XRAY_PORT"
  let publicKey ← envValue env "PUBLIC_KEY"
  let shortId ← envValue env "SHORT_ID"
  let agentToken ← envValue env "AGENT_TOKEN"
  some ⟨hostIp, xrayPort, publicKey, shortId, agentToken⟩

/-- The values are set on a row. -/
def NodeRow.bootstrap (config : BootConfig) (values : AgentValues) (port : Int)
    (server : NodeRow) : NodeRow :=
  { server with
    name := config.serverName
    flag := config.serverFlag
    host := values.hostIp
    port := port
    publicKey := values.publicKey
    shortId := values.shortId
    agentUrl := config.serverAgentUrl
    agentToken := values.agentToken
    subscriptionGroup := config.serverSubscriptionGroup
    isActive := true }

/-- A new row before the values are set. -/
def emptyNode (id : Nat) : NodeRow :=
  ⟨id, "", "", "", 0, "", "", "", "", "public", "safe", true, none, none, 0, "push", none, none⟩

def BootConfig.fits (columns : ColumnTypes) (config : BootConfig) (values : AgentValues)
    (port : Int) : Bool :=
  columns.int port && columns.text 255 config.serverName && columns.text 10 config.serverFlag &&
    columns.text 255 values.hostIp && columns.text 255 values.publicKey &&
    columns.text 255 values.shortId && columns.text 255 config.serverAgentUrl &&
    columns.text 255 values.agentToken && columns.text 16 config.serverSubscriptionGroup

/-- The first row with a property is changed. -/
def setFirst (p : α → Bool) (f : α → α) : List α → List α
  | [] => []
  | a :: l => if p a then f a :: l else a :: setFirst p f l

def BootConfig.isServer (config : BootConfig) (server : NodeRow) : Bool :=
  decide (server.agentUrl = config.serverAgentUrl) && decide (server.name = config.serverName)

def BootConfig.hasUrl (config : BootConfig) (server : NodeRow) : Bool :=
  decide (server.agentUrl = config.serverAgentUrl)

/-- The rows after the values are set on the row that is found, on the first one of the agent, or
on a new one. -/
def BootConfig.placed (config : BootConfig) (set : NodeRow → NodeRow) (db : BootDb) :
    Option BootDb :=
  match db.servers.filter config.isServer with
  | [] => if db.servers.any config.hasUrl then
      some { db with servers := setFirst config.hasUrl set db.servers }
    else some { db with
      servers := db.servers ++ [set (emptyNode db.nextServer)]
      nextServer := db.nextServer + 1 }
  | [_] => some { db with servers := setFirst config.isServer set db.servers }
  | _ => none

def bootstrapServer (columns : ColumnTypes) (config : BootConfig) (db : BootDb) :
    Option BootDb :=
  if !config.serverEnabled then some db
  else match config.agentValues with
  | none => some db
  | some values => do
    let port ← pyInt values.xrayPort.toList
    if config.fits columns values port then
      config.placed (NodeRow.bootstrap config values port) db
    else none

/-! ## The start -/

/-- The three steps. Each commits for itself, and an error ends the start. -/
def bootstrap (columns : ColumnTypes) (config : BootConfig) (db : BootDb) : BootDb × Bool :=
  match bootstrapPlans columns config.plans db with
  | none => (db, false)
  | some db => match ensureDefaultPlanExists db with
    | none => (db, false)
    | some db => match bootstrapServer columns config db with
      | none => (db, false)
      | some db => (db, true)

/-- The bot starts, sells a plan, and finds nothing to do at the next start. -/
def BootsWell (columns : ColumnTypes) (config : BootConfig) (db : BootDb) : Prop :=
  (bootstrap columns config db).2 = true ∧
    (bootstrap columns config db).1.plans.any TariffRow.isActive = true ∧
    bootstrap columns config (bootstrap columns config db).1 =
      ((bootstrap columns config db).1, true)

/-! ## The plans of the configuration -/

/-- The objects that are taken. -/
def planTerms (items : List PlanItem) : List PlanTerms :=
  (items.map PlanItem.terms).filter fun terms => 0 < terms.days ∧ 0 < terms.starsPrice

/-- The terms are taken by the plan of their duration. -/
def TariffRow.take (plan : TariffRow) (terms : PlanTerms) : TariffRow :=
  if plan.days = terms.days then plan.withTerms terms else plan

/-- A plan after all terms. -/
def TariffRow.takeAll (all : List PlanTerms) (plan : TariffRow) : TariffRow :=
  all.foldl TariffRow.take plan

def countDays (plans : List TariffRow) (days : Int) : Nat :=
  plans.countP fun plan => plan.days = days

/-- All durations fit the column and find one plan at most. -/
def TermsFound (columns : ColumnTypes) (all : List PlanTerms) (plans : List TariffRow) : Prop :=
  ∀ terms ∈ all, columns.int terms.days = true ∧ countDays plans terms.days ≤ 1

/-- The prices of new plans fit the column, and so do the last ones of the plans that are there,
where they are others than before. -/
structure PricesFit (columns : ColumnTypes) (all : List PlanTerms) (plans : List TariffRow) :
    Prop where
  added : ∀ terms ∈ all, countDays plans terms.days = 0 → columns.int terms.starsPrice = true
  changed : ∀ plan ∈ plans, (plan.takeAll all).starsPrice = plan.starsPrice ∨
    columns.int (plan.takeAll all).starsPrice = true

@[simp] theorem take_days (plan : TariffRow) (terms : PlanTerms) :
    (plan.take terms).days = plan.days := by
  rw [TariffRow.take]
  split <;> rfl

@[simp] theorem takeAll_days (all : List PlanTerms) (plan : TariffRow) :
    (plan.takeAll all).days = plan.days := by
  induction all generalizing plan with
  | nil => rfl
  | cons terms all ih => rw [TariffRow.takeAll, List.foldl_cons, ← TariffRow.takeAll, ih, take_days]

theorem countDays_map {f : TariffRow → TariffRow} (hf : ∀ plan, (f plan).days = plan.days)
    (plans : List TariffRow) (days : Int) :
    countDays (plans.map f) days = countDays plans days := by
  rw [countDays, List.countP_map]
  congr 1
  funext plan
  simp [hf]

theorem planTerms_cons (item : PlanItem) (items : List PlanItem) :
    planTerms (item :: items) = if item.terms.days ≤ 0 ∨ item.terms.starsPrice ≤ 0 then
      planTerms items else item.terms :: planTerms items := by
  rw [planTerms, List.map_cons, List.filter_cons, ← planTerms]
  by_cases h : item.terms.days ≤ 0 ∨ item.terms.starsPrice ≤ 0
  · rw [if_pos h, if_neg]
    simp only [decide_eq_true_eq]
    omega
  · rw [if_neg h, if_pos]
    simp only [decide_eq_true_eq]
    omega

theorem bootstrapPlan_valid {columns : ColumnTypes} {item : PlanItem} {plans : List TariffRow}
    (hvalid : ¬ (item.terms.days ≤ 0 ∨ item.terms.starsPrice ≤ 0)) (added : List PlanTerms) :
    bootstrapPlan columns (plans, added) item =
      if columns.int item.terms.days = true ∧ countDays plans item.terms.days ≤ 1 then
        some (plans.map fun plan => plan.take item.terms,
          added ++ if countDays plans item.terms.days = 0 then [item.terms] else [])
      else none := by
  have hlength : (plans.filter fun plan => plan.days = item.terms.days).length =
      countDays plans item.terms.days := List.countP_eq_length_filter.symm
  rw [bootstrapPlan, if_neg hvalid]
  by_cases hfits : columns.int item.terms.days = true
  · rw [if_neg (by simp [hfits])]
    cases hfound : plans.filter fun plan => plan.days = item.terms.days with
    | nil =>
      rw [hfound] at hlength
      have hsame : plans.map (fun plan => plan.take item.terms) = plans := by
        rw [List.filter_eq_nil_iff] at hfound
        conv_rhs => rw [← List.map_id plans]
        apply List.map_congr_left
        intro plan hplan
        rw [TariffRow.take, if_neg (by simpa using hfound plan hplan), id]
      rw [if_pos ⟨hfits, by rw [← hlength]; exact Nat.zero_le 1⟩, ← hlength, hsame]
      rfl
    | cons plan rest =>
      rw [hfound] at hlength
      cases rest with
      | nil =>
        rw [if_pos ⟨hfits, by rw [← hlength]; exact Nat.le_refl 1⟩, ← hlength,
          List.length_singleton, if_neg Nat.one_ne_zero, List.append_nil]
        rfl
      | cons other rest =>
        rw [if_neg fun h => absurd h.2 (by rw [← hlength]; simp)]
  · rw [if_pos (by simp [hfits]), if_neg fun h => hfits h.1]

theorem termsFound_cons {columns : ColumnTypes} {terms : PlanTerms} {all : List PlanTerms}
    {plans : List TariffRow} : TermsFound columns (terms :: all) plans ↔
      (columns.int terms.days = true ∧ countDays plans terms.days ≤ 1) ∧
        TermsFound columns all plans :=
  List.forall_mem_cons

theorem termsFound_map {columns : ColumnTypes} {all : List PlanTerms} {plans : List TariffRow}
    {f : TariffRow → TariffRow} (hf : ∀ plan, (f plan).days = plan.days) :
    TermsFound columns all (plans.map f) ↔ TermsFound columns all plans := by
  simp only [TermsFound, countDays_map hf]

theorem foldlM_bootstrapPlan {columns : ColumnTypes} (items : List PlanItem)
    (plans : List TariffRow) (added : List PlanTerms) :
    (TermsFound columns (planTerms items) plans →
      items.foldlM (bootstrapPlan columns) (plans, added) =
        some (plans.map (TariffRow.takeAll (planTerms items)),
          added ++ (planTerms items).filter fun terms => countDays plans terms.days = 0)) ∧
    (¬ TermsFound columns (planTerms items) plans →
      items.foldlM (bootstrapPlan columns) (plans, added) = none) := by
  induction items generalizing plans added with
  | nil =>
    refine ⟨fun _ => ?_, fun h => absurd (List.forall_mem_nil _) h⟩
    have hid : TariffRow.takeAll [] = id := rfl
    rw [show planTerms [] = [] from rfl, hid, List.map_id, List.filter_nil, List.append_nil]
    rfl
  | cons item items ih =>
    rw [planTerms_cons]
    by_cases hvalid : item.terms.days ≤ 0 ∨ item.terms.starsPrice ≤ 0
    · have hskip : bootstrapPlan columns (plans, added) item = some (plans, added) := by
        rw [bootstrapPlan, if_pos hvalid]
      rw [if_pos hvalid, List.foldlM_cons, hskip]
      exact ih plans added
    · rw [if_neg hvalid, termsFound_cons, List.foldlM_cons, bootstrapPlan_valid hvalid]
      by_cases hfound : columns.int item.terms.days = true ∧
          countDays plans item.terms.days ≤ 1
      · rw [if_pos hfound]
        obtain ⟨hsome, hnone⟩ := ih (plans.map fun plan => plan.take item.terms)
          (added ++ if countDays plans item.terms.days = 0 then [item.terms] else [])
        rw [termsFound_map fun plan => take_days plan item.terms] at hsome hnone
        constructor
        · intro h
          rw [Option.bind_eq_bind, Option.bind_some, hsome h.2, List.map_map, List.append_assoc]
          congr 2
          simp only [countDays_map fun plan => take_days plan item.terms, List.filter_cons]
          split <;> simp_all
        · intro h
          exact hnone fun hrest => h ⟨hfound, hrest⟩
      · rw [if_neg hfound]
        exact ⟨fun h => absurd h.1 hfound, fun _ => rfl⟩

/-! ## A second time -/

theorem takeAll_append (a b : List PlanTerms) (plan : TariffRow) :
    plan.takeAll (a ++ b) = (plan.takeAll a).takeAll b :=
  List.foldl_append

theorem takeAll_of_not_mem {all : List PlanTerms} {plan : TariffRow}
    (h : ∀ terms ∈ all, terms.days ≠ plan.days) : plan.takeAll all = plan := by
  induction all with
  | nil => rfl
  | cons terms all ih =>
    have hskip : plan.take terms = plan := if_neg (Ne.symm (h terms List.mem_cons_self))
    rw [TariffRow.takeAll, List.foldl_cons, hskip]
    exact ih fun other hother => h other (List.mem_cons_of_mem _ hother)

/-- Two rows differ in their terms only. -/
def SameTariff (a b : TariffRow) : Prop :=
  a.days = b.days ∧ ∀ terms, a.withTerms terms = b.withTerms terms

theorem sameTariff_takeAll (all : List PlanTerms) (plan : TariffRow) :
    SameTariff (plan.takeAll all) plan := by
  refine ⟨takeAll_days all plan, fun terms => ?_⟩
  induction all generalizing plan with
  | nil => rfl
  | cons first all ih =>
    rw [TariffRow.takeAll, List.foldl_cons, ← TariffRow.takeAll, ih, TariffRow.take]
    split <;> rfl

/-- The last terms of the duration decide. -/
theorem takeAll_last {plan : TariffRow} {terms : PlanTerms} (a : List PlanTerms)
    {b : List PlanTerms} (hdays : terms.days = plan.days)
    (hb : ∀ other ∈ b, other.days ≠ terms.days) :
    plan.takeAll (a ++ terms :: b) = plan.withTerms terms := by
  have htake : ((plan.takeAll a).take terms) = plan.withTerms terms := by
    rw [TariffRow.take, if_pos (by rw [takeAll_days, hdays]), (sameTariff_takeAll a plan).2]
  rw [takeAll_append, TariffRow.takeAll, List.foldl_cons, ← TariffRow.takeAll, htake]
  apply takeAll_of_not_mem
  intro other hother heq
  exact hb other hother (heq.trans hdays.symm)

theorem takeAll_cases (all : List PlanTerms) (days : Int) :
    (∀ terms ∈ all, terms.days ≠ days) ∨ ∃ a terms b, all = a ++ terms :: b ∧ terms.days = days ∧
      ∀ other ∈ b, other.days ≠ days := by
  rcases split_last (fun terms : PlanTerms => decide (terms.days = days)) all with
    hnone | ⟨a, terms, b, hall, hterms, hb⟩
  · exact .inl fun terms hterms => of_decide_eq_false (hnone terms hterms)
  · exact .inr ⟨a, terms, b, hall, of_decide_eq_true hterms,
      fun other hother => of_decide_eq_false (hb other hother)⟩

/-- Rows that differ in their terms only become the same, where there are terms for them. -/
theorem takeAll_same {all : List PlanTerms} {a b : TariffRow} (h : SameTariff a b)
    (hsome : ∃ terms ∈ all, terms.days = b.days) : a.takeAll all = b.takeAll all := by
  rcases takeAll_cases all b.days with hnone | ⟨front, terms, back, rfl, hdays, hback⟩
  · obtain ⟨terms, hterms, hdays⟩ := hsome
    exact absurd hdays (hnone terms hterms)
  · rw [← hdays] at hback
    rw [takeAll_last front (hdays.trans h.1.symm) hback, takeAll_last front hdays hback, h.2]

theorem takeAll_takeAll (all : List PlanTerms) (plan : TariffRow) :
    (plan.takeAll all).takeAll all = plan.takeAll all := by
  by_cases hsome : ∃ terms ∈ all, terms.days = plan.days
  · exact takeAll_same (sameTariff_takeAll all plan) hsome
  · have hnone : ∀ terms ∈ all, terms.days ≠ plan.days := fun terms hterms hdays =>
      hsome ⟨terms, hterms, hdays⟩
    rw [takeAll_of_not_mem hnone, takeAll_of_not_mem hnone]

/-- The terms that find no plan are of different durations. -/
def Unrepeated (all : List PlanTerms) (plans : List TariffRow) : Prop :=
  ∀ terms ∈ all, countDays plans terms.days = 0 →
    all.countP (fun other => other.days = terms.days) ≤ 1

/-- The rows after the step of the plans. -/
def plansAfter (all : List PlanTerms) (db : BootDb) : BootDb :=
  addPlans { db with plans := db.plans.map (TariffRow.takeAll all) }
    (all.filter fun terms => countDays db.plans terms.days = 0)

/-- The step of the plans meets no error. -/
structure PlansFit (columns : ColumnTypes) (all : List PlanTerms) (plans : List TariffRow) :
    Prop where
  found : TermsFound columns all plans
  prices : PricesFit columns all plans

theorem pricesFit_iff {columns : ColumnTypes} {all : List PlanTerms} {plans : List TariffRow} :
    pricesFit columns plans (plans.map (TariffRow.takeAll all))
      (all.filter fun terms => countDays plans terms.days = 0) = true ↔
    PricesFit columns all plans := by
  rw [pricesFit, Bool.and_eq_true, List.all_eq_true, List.all_eq_true,
    ← List.map_prod_left_eq_zip, List.forall_mem_map]
  constructor
  · rintro ⟨hadded, hchanged⟩
    exact ⟨fun terms hterms hzero =>
        hadded terms (List.mem_filter.2 ⟨hterms, by simpa using hzero⟩),
      fun plan hplan => by simpa using hchanged plan hplan⟩
  · rintro ⟨hadded, hchanged⟩
    refine ⟨fun terms hterms => ?_, fun plan hplan => by simpa using hchanged plan hplan⟩
    obtain ⟨hmem, hzero⟩ := List.mem_filter.1 hterms
    exact hadded terms hmem (of_decide_eq_true hzero)

theorem pricesFit_of_terms {columns : ColumnTypes} {all : List PlanTerms}
    (h : ∀ terms ∈ all, columns.int terms.starsPrice = true) (plans : List TariffRow) :
    PricesFit columns all plans := by
  refine ⟨fun terms hterms _ => h terms hterms, fun plan _ => ?_⟩
  rcases takeAll_cases all plan.days with hnone | ⟨a, terms, b, rfl, hdays, hb⟩
  · exact .inl (by rw [takeAll_of_not_mem hnone])
  · rw [← hdays] at hb
    rw [takeAll_last a hdays hb]
    exact .inr (h terms (by simp))

theorem bootstrapPlans_found {columns : ColumnTypes} {items : List PlanItem} {db : BootDb}
    (h : PlansFit columns (planTerms items) db.plans) :
    bootstrapPlans columns items db = some (plansAfter (planTerms items) db) := by
  rw [bootstrapPlans, (foldlM_bootstrapPlan items db.plans []).1 h.found]
  exact if_pos (pricesFit_iff.2 h.prices)

theorem bootstrapPlans_none {columns : ColumnTypes} {items : List PlanItem} {db : BootDb}
    (h : ¬ PlansFit columns (planTerms items) db.plans) :
    bootstrapPlans columns items db = none := by
  by_cases hfound : TermsFound columns (planTerms items) db.plans
  · rw [bootstrapPlans, (foldlM_bootstrapPlan items db.plans []).1 hfound]
    exact if_neg fun hprices => h ⟨hfound, pricesFit_iff.1 hprices⟩
  · rw [bootstrapPlans, (foldlM_bootstrapPlan items db.plans []).2 hfound]
    rfl

theorem countDays_addPlans (db : BootDb) (added : List PlanTerms) (days : Int) :
    countDays (addPlans db added).plans days =
      countDays db.plans days + added.countP fun terms => terms.days = days := by
  rw [addPlans, countDays, List.countP_append, List.countP_map, ← countDays]
  congr 1
  conv_rhs => rw [← List.zipIdx_map_fst 0 added, List.countP_map]
  rfl

theorem countDays_plansAfter (all : List PlanTerms) (db : BootDb) (days : Int) :
    countDays (plansAfter all db).plans days = if countDays db.plans days = 0 then
      all.countP (fun terms => terms.days = days) else countDays db.plans days := by
  rw [plansAfter, countDays_addPlans, countDays_map (takeAll_days all), List.countP_filter]
  by_cases hzero : countDays db.plans days = 0
  · rw [if_pos hzero, hzero, Nat.zero_add]
    apply List.countP_congr
    intro terms _
    rw [Bool.and_eq_true, decide_eq_true_eq, decide_eq_true_eq]
    constructor
    · exact fun h => h.1
    · rintro rfl
      exact ⟨rfl, hzero⟩
  · rw [if_neg hzero, List.countP_eq_zero.2, Nat.add_zero]
    intro terms _ hboth
    rw [Bool.and_eq_true, decide_eq_true_eq, decide_eq_true_eq] at hboth
    exact hzero (hboth.1 ▸ hboth.2)

theorem termsFound_plansAfter {columns : ColumnTypes} {all : List PlanTerms} {db : BootDb}
    (h : TermsFound columns all db.plans) :
    TermsFound columns all (plansAfter all db).plans ↔ Unrepeated all db.plans := by
  constructor
  · intro hafter terms hterms hzero
    have hcount := (hafter terms hterms).2
    rw [countDays_plansAfter, if_pos hzero] at hcount
    exact hcount
  · intro hunrepeated terms hterms
    obtain ⟨hdays, hcount⟩ := h terms hterms
    refine ⟨hdays, ?_⟩
    rw [countDays_plansAfter]
    split
    · exact hunrepeated terms hterms ‹_›
    · exact hcount

theorem plansAfter_found (all : List PlanTerms) (db : BootDb) :
    ∀ terms ∈ all, countDays (plansAfter all db).plans terms.days ≠ 0 := by
  intro terms hterms
  rw [countDays_plansAfter]
  split
  · exact (List.countP_pos_iff.2 ⟨terms, hterms, by simp⟩).ne'
  · assumption

theorem plansAfter_of_found {all : List PlanTerms} {db : BootDb}
    (h : ∀ terms ∈ all, countDays db.plans terms.days ≠ 0) :
    plansAfter all db = { db with plans := db.plans.map (TariffRow.takeAll all) } := by
  have hnone : all.filter (fun terms => countDays db.plans terms.days = 0) = [] := by
    rw [List.filter_eq_nil_iff]
    intro terms hterms
    simpa using h terms hterms
  rw [plansAfter, hnone, addPlans]
  simp

theorem takeAll_once {all : List PlanTerms} {terms : PlanTerms} {plan : TariffRow}
    (hmem : terms ∈ all) (hdays : terms.days = plan.days)
    (honce : all.countP (fun other => other.days = terms.days) ≤ 1) :
    plan.takeAll all = plan.withTerms terms := by
  obtain ⟨a, b, rfl⟩ := List.append_of_mem hmem
  rw [List.countP_append, List.countP_cons_of_pos (by simp)] at honce
  have hzero : b.countP (fun other => other.days = terms.days) = 0 := by omega
  apply takeAll_last a hdays
  intro other hother
  simpa using List.countP_eq_zero.1 hzero other hother

theorem plansAfter_fixed {all : List PlanTerms} {db : BootDb} (h : Unrepeated all db.plans) :
    ∀ plan ∈ (plansAfter all db).plans, plan.takeAll all = plan := by
  intro plan hplan
  rw [plansAfter, addPlans, List.mem_append] at hplan
  rcases hplan with hold | hnew
  · obtain ⟨before, -, rfl⟩ := List.mem_map.1 hold
    exact takeAll_takeAll all before
  · obtain ⟨⟨terms, n⟩, hentry, rfl⟩ := List.mem_map.1 hnew
    have hterms := List.fst_mem_of_mem_zipIdx hentry
    obtain ⟨hmem, hzero⟩ := List.mem_filter.1 hterms
    rw [takeAll_once hmem rfl (h terms hmem (of_decide_eq_true hzero))]
    rfl

/-! ## The default plan -/

/-- Some plan is active, or at most one is of thirty days. -/
def DefaultFound (plans : List TariffRow) : Prop :=
  plans.any TariffRow.isActive = true ∨ countDays plans 30 ≤ 1

def defaultTerms : PlanTerms := ⟨30, 100, true⟩

/-- The rows after the step of the default plan. -/
def withDefault (db : BootDb) : BootDb :=
  if db.plans.any TariffRow.isActive then db
  else if countDays db.plans 30 = 0 then addPlans db [defaultTerms]
  else { db with plans := db.plans.map fun plan =>
    if plan.days = 30 then { plan with isActive := true } else plan }

theorem ensureDefault_found {db : BootDb} (h : DefaultFound db.plans) :
    ensureDefaultPlanExists db = some (withDefault db) := by
  have hlength : (db.plans.filter fun plan => plan.days = 30).length = countDays db.plans 30 :=
    List.countP_eq_length_filter.symm
  rw [ensureDefaultPlanExists, withDefault]
  by_cases hactive : db.plans.any TariffRow.isActive
  · rw [if_pos hactive, if_pos hactive]
  · rw [if_neg hactive, if_neg hactive]
    have hcount := h.resolve_left hactive
    cases hfound : db.plans.filter fun plan => plan.days = 30 with
    | nil =>
      have hzero : countDays db.plans 30 = 0 := by rw [← hlength, hfound, List.length_nil]
      rw [if_pos hzero]
      rfl
    | cons plan rest =>
      rw [hfound, List.length_cons] at hlength
      have hrest : rest = [] := List.length_eq_zero_iff.1 (by omega)
      rw [hrest, if_neg (by omega)]

theorem ensureDefault_none {db : BootDb} (h : ¬ DefaultFound db.plans) :
    ensureDefaultPlanExists db = none := by
  have hlength : (db.plans.filter fun plan => plan.days = 30).length = countDays db.plans 30 :=
    List.countP_eq_length_filter.symm
  rw [DefaultFound, not_or] at h
  rw [ensureDefaultPlanExists, if_neg h.1]
  cases hfound : db.plans.filter fun plan => plan.days = 30 with
  | nil =>
    rw [hfound, List.length_nil] at hlength
    omega
  | cons plan rest =>
    cases rest with
    | nil =>
      rw [hfound, List.length_singleton] at hlength
      omega
    | cons other rest => rfl

def TariffRow.activated (plan : TariffRow) : TariffRow :=
  if plan.days = 30 then { plan with isActive := true } else plan

theorem activated_days (plan : TariffRow) : plan.activated.days = plan.days := by
  rw [TariffRow.activated]
  split <;> rfl

/-- Rows that the steps of the plans leave as they are: some plan is active and none takes other
terms, or the terms make the plan of thirty days inactive and it is activated again. -/
structure SettledPlans (all : List PlanTerms) (plans : List TariffRow) : Prop where
  found : ∀ terms ∈ all, countDays plans terms.days ≠ 0
  once : ∀ terms ∈ all, countDays plans terms.days ≤ 1
  active : plans.any TariffRow.isActive = true
  kept : plans.map (TariffRow.takeAll all) = plans ∨
    (plans.map (TariffRow.takeAll all)).any TariffRow.isActive = false ∧
      countDays (plans.map (TariffRow.takeAll all)) 30 = 1 ∧
      (plans.map (TariffRow.takeAll all)).map TariffRow.activated = plans

theorem SettledPlans.again {all : List PlanTerms} {db : BootDb} (h : SettledPlans all db.plans) :
    DefaultFound (plansAfter all db).plans ∧ withDefault (plansAfter all db) = db := by
  rw [plansAfter_of_found h.found, withDefault]
  rcases h.kept with hsame | ⟨hinactive, hthirty, hagain⟩
  · rw [hsame]
    exact ⟨.inl h.active, if_pos h.active⟩
  · refine ⟨.inr hthirty.le, ?_⟩
    rw [if_neg (by simp [hinactive]), if_neg (by rw [hthirty]; decide)]
    congr 1

theorem SettledPlans.prices {all : List PlanTerms} {plans : List TariffRow}
    (h : SettledPlans all plans) (columns : ColumnTypes) : PricesFit columns all plans := by
  refine ⟨fun terms hterms hzero => absurd hzero (h.found terms hterms),
    fun plan hplan => .inl ?_⟩
  rcases h.kept with hsame | ⟨-, -, hagain⟩
  · have hid : ∀ plan ∈ plans, plan.takeAll all = id plan := by
      rw [← List.map_eq_map_iff, List.map_id, hsame]
    rw [hid plan hplan, id]
  · have hid : ∀ plan ∈ plans, (plan.takeAll all).activated = id plan := by
      rw [List.map_map] at hagain
      rw [← List.map_eq_map_iff, List.map_id]
      exact hagain
    have hprice : (plan.takeAll all).activated.starsPrice = (plan.takeAll all).starsPrice := by
      rw [TariffRow.activated]
      split <;> rfl
    rw [← hprice, hid plan hplan, id]

theorem any_activated {plans : List TariffRow} (h : countDays plans 30 ≠ 0) :
    (plans.map TariffRow.activated).any TariffRow.isActive = true := by
  obtain ⟨plan, hplan, hdays⟩ := List.countP_pos_iff.1 (Nat.pos_of_ne_zero h)
  rw [List.any_eq_true]
  refine ⟨plan.activated, List.mem_map_of_mem hplan, ?_⟩
  rw [TariffRow.activated, if_pos (of_decide_eq_true hdays)]

theorem takeAll_activated {all : List PlanTerms} {plan : TariffRow}
    (hfixed : plan.takeAll all = plan) : plan.activated.takeAll all =
      if ∃ terms ∈ all, terms.days = 30 then plan else plan.activated := by
  by_cases hthirty : plan.days = 30
  · have hsame : SameTariff plan.activated plan :=
      ⟨activated_days plan, fun terms => by rw [TariffRow.activated, if_pos hthirty]; rfl⟩
    by_cases hnone : ∃ terms ∈ all, terms.days = 30
    · rw [if_pos hnone, takeAll_same hsame (by rwa [hthirty]), hfixed]
    · rw [if_neg hnone]
      apply takeAll_of_not_mem
      intro terms hterms heq
      rw [activated_days, hthirty] at heq
      exact hnone ⟨terms, hterms, heq⟩
  · rw [TariffRow.activated, if_neg hthirty, ite_self, hfixed]

/-- The steps of the plans settle the rows. -/
theorem settledPlans {columns : ColumnTypes} {all : List PlanTerms} {db : BootDb}
    (hfound : TermsFound columns all db.plans) (hunrepeated : Unrepeated all db.plans)
    (hdefault : DefaultFound (plansAfter all db).plans) :
    SettledPlans all (withDefault (plansAfter all db)).plans := by
  have hthere := plansAfter_found all db
  have honce := (termsFound_plansAfter hfound).2 hunrepeated
  have hfixed := plansAfter_fixed hunrepeated
  generalize plansAfter all db = after at *
  have hmap : after.plans.map (TariffRow.takeAll all) = after.plans := by
    conv_rhs => rw [← List.map_id after.plans]
    exact List.map_congr_left hfixed
  rw [withDefault]
  by_cases hactive : after.plans.any TariffRow.isActive = true
  · rw [if_pos hactive]
    exact ⟨hthere, fun terms hterms => (honce terms hterms).2, hactive, .inl hmap⟩
  · rw [if_neg hactive]
    by_cases hzero : countDays after.plans 30 = 0
    · have hnot : ∀ terms ∈ all, terms.days ≠ 30 := by
        rintro terms hterms heq
        exact hthere terms hterms (heq ▸ hzero)
      have hcount : ∀ terms ∈ all, countDays (addPlans after [defaultTerms]).plans terms.days =
          countDays after.plans terms.days := by
        intro terms hterms
        rw [countDays_addPlans, List.countP_singleton, if_neg, Nat.add_zero]
        rw [Bool.not_eq_true, decide_eq_false_iff_not]
        exact Ne.symm (hnot terms hterms)
      rw [if_pos hzero]
      refine ⟨fun terms hterms => ?_, fun terms hterms => ?_, ?_, .inl ?_⟩
      · rw [hcount terms hterms]
        exact hthere terms hterms
      · rw [hcount terms hterms]
        exact (honce terms hterms).2
      · simp [addPlans, defaultTerms]
      · rw [addPlans, List.map_append, hmap]
        congr 1
        rw [List.zipIdx_singleton, List.map_singleton, List.map_singleton,
          takeAll_of_not_mem hnot]
    · have hthirty : countDays after.plans 30 = 1 := by
        have hle := hdefault.resolve_left hactive
        omega
      rw [if_neg hzero]
      have hplans : (after.plans.map fun plan : TariffRow =>
          if plan.days = 30 then { plan with isActive := true } else plan) =
          after.plans.map TariffRow.activated := rfl
      dsimp only
      rw [hplans]
      refine ⟨fun terms hterms => ?_, fun terms hterms => ?_, any_activated hzero, ?_⟩
      · rw [countDays_map activated_days]
        exact hthere terms hterms
      · rw [countDays_map activated_days]
        exact (honce terms hterms).2
      · have htake : (after.plans.map TariffRow.activated).map (TariffRow.takeAll all) =
            if ∃ terms ∈ all, terms.days = 30 then after.plans
            else after.plans.map TariffRow.activated := by
          rw [List.map_map]
          by_cases hterms : ∃ terms ∈ all, terms.days = 30
          · rw [if_pos hterms]
            conv_rhs => rw [← List.map_id after.plans]
            apply List.map_congr_left
            intro plan hplan
            rw [Function.comp_apply, takeAll_activated (hfixed plan hplan), if_pos hterms, id]
          · rw [if_neg hterms]
            apply List.map_congr_left
            intro plan hplan
            rw [Function.comp_apply, takeAll_activated (hfixed plan hplan), if_neg hterms]
        rw [htake]
        by_cases hterms : ∃ terms ∈ all, terms.days = 30
        · rw [if_pos hterms]
          exact .inr ⟨by simpa using hactive, hthirty, rfl⟩
        · rw [if_neg hterms]
          exact .inl rfl

/-! ## The row of the server -/

theorem setFirst_split {p : α → Bool} {f : α → α} (ha : ∀ y ∈ a, p y = false) (hx : p x = true) :
    setFirst p f (a ++ x :: b) = a ++ f x :: b := by
  induction a with
  | nil => rw [List.nil_append, setFirst, if_pos hx, List.nil_append]
  | cons y a ih =>
    obtain ⟨hy, ha⟩ := List.forall_mem_cons.1 ha
    rw [List.cons_append, setFirst, if_neg (by simp [hy]), ih ha, List.cons_append]

section Server

variable {config : BootConfig} {db : BootDb}

theorem filter_split {p : α → Bool} (ha : ∀ y ∈ a, p y = false) (hx : p x = true)
    (hb : ∀ y ∈ b, p y = false) : (a ++ x :: b).filter p = [x] := by
  rw [List.filter_append, List.filter_cons_of_pos hx,
    List.filter_eq_nil_iff.2 fun y hy => by simp [ha y hy],
    List.filter_eq_nil_iff.2 fun y hy => by simp [hb y hy], List.nil_append]

theorem placed_again {set : NodeRow → NodeRow} {a b : List NodeRow} {x : NodeRow}
    (hdb : db.servers = a ++ x :: b)
    (ha : ∀ y ∈ a, config.isServer y = false) (hx : config.isServer x = true)
    (hb : ∀ y ∈ b, config.isServer y = false) (hset : set x = x) :
    config.placed set db = some db := by
  rw [BootConfig.placed, hdb, filter_split ha hx hb]
  dsimp only
  rw [setFirst_split ha hx, hset, ← hdb]

theorem placed_spec (set : NodeRow → NodeRow)
    (hserver : ∀ server, config.isServer (set server) = true)
    (hset : ∀ server, set (set server) = set server)
    (honce : db.servers.countP config.isServer ≤ 1) :
    ∃ db', config.placed set db = some db' ∧ db'.plans = db.plans ∧
      db'.nextPlan = db.nextPlan ∧ config.placed set db' = some db' := by
  rcases split_first config.isServer db.servers with hnone | ⟨a, x, b, heq, ha, hx⟩
  · have hempty : db.servers.filter config.isServer = [] :=
      List.filter_eq_nil_iff.2 fun y hy => by simp [hnone y hy]
    rcases split_first config.hasUrl db.servers with hurl | ⟨a, x, b, heq, ha, hx⟩
    · refine ⟨{ db with
        servers := db.servers ++ [set (emptyNode db.nextServer)]
        nextServer := db.nextServer + 1 }, ?_, rfl, rfl, ?_⟩
      · rw [BootConfig.placed, hempty]
        dsimp only
        rw [if_neg]
        rw [Bool.not_eq_true, List.any_eq_false]
        intro y hy
        simp [hurl y hy]
      · exact placed_again rfl hnone (hserver _) (List.forall_mem_nil _) (hset _)
    · rw [heq] at hnone
      refine ⟨{ db with servers := a ++ set x :: b }, ?_, rfl, rfl, ?_⟩
      · rw [BootConfig.placed, hempty]
        dsimp only
        rw [if_pos, heq, setFirst_split ha hx]
        rw [List.any_eq_true]
        exact ⟨x, by rw [heq]; simp, hx⟩
      · apply placed_again rfl _ (hserver x) _ (hset x)
        · exact fun y hy => hnone y (List.mem_append_left _ hy)
        · exact fun y hy => hnone y (List.mem_append_right _ (List.mem_cons_of_mem _ hy))
  · have hb : ∀ y ∈ b, config.isServer y = false := by
      rw [heq, List.countP_append, List.countP_cons_of_pos hx] at honce
      have hzero : b.countP config.isServer = 0 := by omega
      intro y hy
      simpa using List.countP_eq_zero.1 hzero y hy
    refine ⟨{ db with servers := a ++ set x :: b }, ?_, rfl, rfl, ?_⟩
    · rw [BootConfig.placed, heq, filter_split ha hx hb]
      dsimp only
      rw [setFirst_split ha hx]
    · exact placed_again rfl ha (hserver x) hb (hset x)

theorem placed_none (set : NodeRow → NodeRow) (h : 1 < db.servers.countP config.isServer) :
    config.placed set db = none := by
  rw [List.countP_eq_length_filter] at h
  rw [BootConfig.placed]
  cases hfound : db.servers.filter config.isServer with
  | nil =>
    rw [hfound] at h
    cases h
  | cons server rest =>
    cases rest with
    | nil =>
      rw [hfound] at h
      cases h with
      | step h => cases h
    | cons other rest => rfl

/-- Where the file of the agent is complete, its port is a number, the values fit, and at most one
row has the address and the name. -/
def ServerFound (columns : ColumnTypes) (config : BootConfig) (servers : List NodeRow) : Prop :=
  config.serverEnabled = true → ∀ values ∈ config.agentValues,
    (∃ port ∈ pyInt values.xrayPort.toList, config.fits columns values port = true) ∧
      servers.countP config.isServer ≤ 1

theorem bootstrapServer_spec (columns : ColumnTypes) (config : BootConfig) (db : BootDb)
    (h : ServerFound columns config db.servers) :
    ∃ db', bootstrapServer columns config db = some db' ∧ db'.plans = db.plans ∧
      db'.nextPlan = db.nextPlan ∧ bootstrapServer columns config db' = some db' := by
  by_cases henabled : config.serverEnabled = true
  · cases hvalues : config.agentValues with
    | none =>
      refine ⟨db, ?_, rfl, rfl, ?_⟩
      · rw [bootstrapServer, henabled, hvalues]
        rfl
      · rw [bootstrapServer, henabled, hvalues]
        rfl
    | some values =>
      obtain ⟨⟨port, hport, hfits⟩, honce⟩ := h henabled values hvalues
      have hstep : ∀ db, bootstrapServer columns config db =
          config.placed (NodeRow.bootstrap config values port) db := by
        intro db
        rw [bootstrapServer, henabled, hvalues]
        simp only [Bool.not_true, Bool.false_eq_true, if_false]
        rw [hport, Option.bind_eq_bind, Option.bind_some, if_pos hfits]
      obtain ⟨db', hplaced, hplans, hnext, hagain⟩ :=
        placed_spec (NodeRow.bootstrap config values port) (fun server => by
          simp [BootConfig.isServer, NodeRow.bootstrap]) (fun _ => rfl) honce
      exact ⟨db', (hstep db).trans hplaced, hplans, hnext, (hstep db').trans hagain⟩
  · have hskip : ∀ db, bootstrapServer columns config db = some db := fun db => by
      rw [bootstrapServer, if_pos (by simp [henabled])]
    exact ⟨db, hskip db, rfl, rfl, hskip db⟩

theorem bootstrapServer_none {columns : ColumnTypes} (h : ¬ ServerFound columns config db.servers) :
    bootstrapServer columns config db = none := by
  rw [ServerFound, Classical.not_imp] at h
  obtain ⟨henabled, hbad⟩ := h
  rw [bootstrapServer, henabled]
  cases hvalues : config.agentValues with
  | none =>
    rw [hvalues] at hbad
    exact absurd (fun values hmem => by cases hmem) hbad
  | some values =>
    simp only [Bool.not_true, Bool.false_eq_true, if_false]
    cases hport : pyInt values.xrayPort.toList with
    | none => rfl
    | some port =>
      rw [Option.bind_eq_bind, Option.bind_some]
      by_cases hfits : config.fits columns values port = true
      · rw [if_pos hfits]
        apply placed_none
        by_contra hless
        apply hbad
        rw [hvalues]
        rintro other ⟨⟩
        exact ⟨⟨port, hport, hfits⟩, Nat.not_lt.1 hless⟩
      · rw [if_neg hfits]

end Server

/-! ## When the bot starts -/

/-- Some plan is left active by the terms, or is made so by the last terms of its duration, or at
most one plan is of thirty days. -/
def DefaultKept (all : List PlanTerms) (plans : List TariffRow) : Prop :=
  (∃ plan ∈ plans, plan.isActive = true ∧ ∀ terms ∈ all, terms.days ≠ plan.days) ∨
    (∃ a terms b, all = a ++ terms :: b ∧ terms.isActive = true ∧
      ∀ other ∈ b, other.days ≠ terms.days) ∨
    countDays plans 30 ≤ 1

/-- The queries of the start find one row at most, now and at the next start, and all values
fit. -/
structure Bootable (columns : ColumnTypes) (config : BootConfig) (db : BootDb) : Prop where
  terms : TermsFound columns (planTerms config.plans) db.plans
  prices : PricesFit columns (planTerms config.plans) db.plans
  unrepeated : Unrepeated (planTerms config.plans) db.plans
  default : DefaultKept (planTerms config.plans) db.plans
  server : ServerFound columns config db.servers

theorem any_plansAfter {all : List PlanTerms} {db : BootDb} (h : Unrepeated all db.plans) :
    (plansAfter all db).plans.any TariffRow.isActive = true ↔
      (∃ plan ∈ db.plans, plan.isActive = true ∧ ∀ terms ∈ all, terms.days ≠ plan.days) ∨
      ∃ a terms b, all = a ++ terms :: b ∧ terms.isActive = true ∧
        ∀ other ∈ b, other.days ≠ terms.days := by
  rw [plansAfter, addPlans, List.any_append, Bool.or_eq_true, List.any_eq_true, List.any_eq_true]
  constructor
  · rintro (⟨plan, hplan, hactive⟩ | ⟨plan, hplan, hactive⟩)
    · obtain ⟨before, hbefore, rfl⟩ := List.mem_map.1 hplan
      rcases takeAll_cases all before.days with hnone | ⟨a, terms, b, heq, hdays, hb⟩
      · rw [takeAll_of_not_mem hnone] at hactive
        exact .inl ⟨before, hbefore, hactive, hnone⟩
      · rw [← hdays] at hb
        rw [heq, takeAll_last a hdays hb] at hactive
        exact .inr ⟨a, terms, b, heq, hactive, hb⟩
    · obtain ⟨⟨terms, n⟩, hentry, rfl⟩ := List.mem_map.1 hplan
      obtain ⟨hmem, hzero⟩ := List.mem_filter.1 (List.fst_mem_of_mem_zipIdx hentry)
      rcases takeAll_cases all terms.days with hnone | ⟨a, last, b, heq, hdays, hb⟩
      · exact absurd rfl (hnone terms hmem)
      · have honce := h terms hmem (of_decide_eq_true hzero)
        have hlast : terms = last := by
          rw [heq, List.mem_append, List.mem_cons] at hmem
          rw [heq, List.countP_append, List.countP_cons_of_pos (by simpa using hdays)] at honce
          have hfront : a.countP (fun other => other.days = terms.days) = 0 := by omega
          rcases hmem with ha | hlast | hback
          · simpa using List.countP_eq_zero.1 hfront terms ha
          · exact hlast
          · exact absurd rfl (hb terms hback)
        subst hlast
        exact .inr ⟨a, terms, b, heq, hactive, hb⟩
  · rintro (⟨plan, hplan, hactive, hnone⟩ | ⟨a, terms, b, heq, hactive, hb⟩)
    · exact .inl ⟨_, List.mem_map_of_mem hplan, by rwa [takeAll_of_not_mem hnone]⟩
    · by_cases hzero : countDays db.plans terms.days = 0
      · have hmem : terms ∈ all.filter fun terms => countDays db.plans terms.days = 0 := by
          rw [List.mem_filter, heq]
          exact ⟨by simp, by simpa using hzero⟩
        obtain ⟨n, hn, hget⟩ := List.mem_iff_getElem.1 hmem
        have hentry : (terms, n) ∈
            (all.filter fun terms => countDays db.plans terms.days = 0).zipIdx := by
          rw [List.mk_mem_zipIdx_iff_getElem?, List.getElem?_eq_getElem hn, hget]
        exact .inr ⟨_, List.mem_map_of_mem hentry, hactive⟩
      · obtain ⟨plan, hplan, hdays⟩ := List.countP_pos_iff.1 (Nat.pos_of_ne_zero hzero)
        refine .inl ⟨_, List.mem_map_of_mem hplan, ?_⟩
        rw [heq, takeAll_last a (of_decide_eq_true hdays).symm hb]
        exact hactive

theorem defaultFound_plansAfter {all : List PlanTerms} {db : BootDb} (h : Unrepeated all db.plans) :
    DefaultFound (plansAfter all db).plans ↔ DefaultKept all db.plans := by
  rw [DefaultFound, DefaultKept, any_plansAfter h, or_assoc, countDays_plansAfter]
  have hthirty : (if countDays db.plans 30 = 0 then all.countP fun terms => terms.days = 30
      else countDays db.plans 30) ≤ 1 ↔ countDays db.plans 30 ≤ 1 := by
    by_cases hzero : countDays db.plans 30 = 0
    · rw [if_pos hzero, hzero]
      refine ⟨fun _ => Nat.zero_le 1, fun _ => ?_⟩
      by_cases hterms : ∃ terms ∈ all, terms.days = 30
      · obtain ⟨terms, hmem, hdays⟩ := hterms
        have honce := h terms hmem (hdays ▸ hzero)
        rwa [hdays] at honce
      · rw [List.countP_eq_zero.2]
        · exact Nat.zero_le 1
        · intro terms hmem hdays
          exact hterms ⟨terms, hmem, of_decide_eq_true hdays⟩
    · rw [if_neg hzero]
  rw [hthirty]

theorem countDays_withDefault_le (db : BootDb) (days : Int) :
    countDays db.plans days ≤ countDays (withDefault db).plans days := by
  rw [withDefault]
  split
  · exact Nat.le_refl _
  · split
    · rw [countDays_addPlans]
      exact Nat.le_add_right _ _
    · exact (countDays_map activated_days db.plans days).ge

theorem withDefault_servers (db : BootDb) : (withDefault db).servers = db.servers := by
  rw [withDefault]
  split
  · rfl
  · split <;> rfl

theorem bootstrap_found {columns : ColumnTypes} {config : BootConfig} {db : BootDb}
    (hterms : PlansFit columns (planTerms config.plans) db.plans)
    (hdefault : DefaultFound (plansAfter (planTerms config.plans) db).plans) :
    bootstrap columns config db =
      match bootstrapServer columns config
        (withDefault (plansAfter (planTerms config.plans) db)) with
      | none => (withDefault (plansAfter (planTerms config.plans) db), false)
      | some db => (db, true) := by
  rw [bootstrap, bootstrapPlans_found hterms]
  dsimp only
  rw [ensureDefault_found hdefault]

theorem Bootable.bootsWell {columns : ColumnTypes} {config : BootConfig} {db : BootDb}
    (h : Bootable columns config db) : BootsWell columns config db := by
  have hdefault := (defaultFound_plansAfter h.unrepeated).2 h.default
  have hsettled := settledPlans h.terms h.unrepeated hdefault
  have hservers : (withDefault (plansAfter (planTerms config.plans) db)).servers = db.servers :=
    withDefault_servers _
  obtain ⟨db', hserver, hplans, -, hagain⟩ :=
    bootstrapServer_spec columns config _ (hservers ▸ h.server)
  have hfirst : bootstrap columns config db = (db', true) := by
    rw [bootstrap_found ⟨h.terms, h.prices⟩ hdefault, hserver]
  rw [← hplans] at hsettled
  obtain ⟨hdefault', hsame⟩ := hsettled.again
  have hterms : PlansFit columns (planTerms config.plans) db'.plans :=
    ⟨fun terms hmem => ⟨(h.terms terms hmem).1, hsettled.once terms hmem⟩,
      hsettled.prices columns⟩
  have hsecond : bootstrap columns config db' = (db', true) := by
    rw [bootstrap_found hterms hdefault', hsame, hagain]
  rw [BootsWell, hfirst]
  exact ⟨rfl, hsettled.active, hsecond⟩

/-- The bot starts well just where the queries of the start find one row at most. -/
theorem bootsWell_iff (columns : ColumnTypes) (config : BootConfig) (db : BootDb) :
    BootsWell columns config db ↔ Bootable columns config db := by
  refine ⟨fun h => ?_, fun h => h.bootsWell⟩
  obtain ⟨hfirst, -, hsecond⟩ := h
  have hterms : PlansFit columns (planTerms config.plans) db.plans := by
    by_contra hnot
    rw [bootstrap, bootstrapPlans_none hnot] at hfirst
    cases hfirst
  have hdefault : DefaultFound (plansAfter (planTerms config.plans) db).plans := by
    by_contra hnot
    rw [bootstrap, bootstrapPlans_found hterms] at hfirst
    dsimp only at hfirst
    rw [ensureDefault_none hnot] at hfirst
    cases hfirst
  have hserver : ServerFound columns config db.servers := by
    by_contra hnot
    rw [bootstrap_found hterms hdefault, bootstrapServer_none] at hfirst
    · cases hfirst
    · rw [withDefault_servers]
      exact hnot
  have hunrepeated : Unrepeated (planTerms config.plans) db.plans := by
    obtain ⟨db', hstep, hplans, -, -⟩ := bootstrapServer_spec columns config
      (withDefault (plansAfter (planTerms config.plans) db)) (by rwa [withDefault_servers])
    rw [bootstrap_found hterms hdefault, hstep] at hsecond
    have hlater : PlansFit columns (planTerms config.plans) db'.plans := by
      by_contra hnot
      rw [bootstrap, bootstrapPlans_none hnot] at hsecond
      cases hsecond
    rw [hplans] at hlater
    rw [← termsFound_plansAfter hterms.found]
    intro terms hmem
    obtain ⟨hdays, honce⟩ := hlater.found terms hmem
    exact ⟨hdays, (countDays_withDefault_le _ terms.days).trans honce⟩
  exact ⟨hterms.found, hterms.prices, hunrepeated,
    (defaultFound_plansAfter hunrepeated).1 hdefault, hserver⟩

end AegisVPN
