import AegisVPN.Agent.OfflineExpiry
import AegisVPN.Control.State

namespace AegisVPN
open Library
set_option autoImplicit true

/-! ## The routes among the desired items -/

section Items
variable (settings : ControlSettings D) (db : Db D) (server : Server D)

/-- A route whose entry and exits may all serve it. -/
def Db.publishes (route : CascadeRoute) : Bool :=
  match db.server route.entryServerId with
  | none => false
  | some entry =>
    entry.isActive && supportsCascade entry && roleAllows entry .entry &&
      !(db.routeExits route.id).isEmpty && (db.routeExits route.id).all fun (_, s) =>
        s.isActive && supportsCascade s && roleAllows s .exit

def publishedRoute (route : CascadeRoute) : DesiredCascadeRoute where
  routeId := route.id
  revision := route.revision
  configDigest := currentRouteDigest settings db route
  label := route.label
  inboundTags := route.tags.filterMap Json.text?
  strayTags := route.tags.filter fun t => t.text?.isNone
  exits := (db.routeExits route.id).map fun (e, s) => ⟨e.position, s.host, s.port, e.serviceUuid,
    s.publicKey, s.shortId, e.serverName, orSlash e.xhttpPath⟩
  healthPolicy := route.healthPolicy

def publishedService (route : CascadeRoute) (e : CascadeRouteExit) : DesiredCascadeService where
  routeId := route.id
  revision := route.revision
  configDigest := currentRouteDigest settings db route
  uuid := e.serviceUuid
  email := s!"cascade_route_{route.id}_entry_{route.entryServerId}"

/-- The exits of a route that are on this server. -/
def Db.exitsAt (route : CascadeRoute) : List (CascadeRouteExit × Server D) :=
  (db.routeExits route.id).filter fun (_, s) => server.id == s.id

theorem routeItems_eq (route : CascadeRoute) : routeItems settings db server route =
    if db.publishes route then
      (if server.id = route.entryServerId then
        [DesiredItem.cascadeRoute (publishedRoute settings db route)] else []) ++
        (db.exitsAt server route).map fun p =>
          .cascadeService (publishedService settings db route p.1)
    else [] := by
  rw [routeItems, Db.publishes]
  cases hentry : db.server route.entryServerId with
  | none => rfl
  | some entry =>
    have hid : entry.id = route.entryServerId := by
      simpa using List.find?_some hentry
    simp only [hid]
    rfl

def Db.enters (route : CascadeRoute) : Bool :=
  route.enabled && db.publishes route && route.entryServerId == server.id

/-- The routes that the server enters. -/
def Db.entryRoutes : List CascadeRoute :=
  if server.isActive && supportsCascade server then db.routes.filter (db.enters server) else []

/-- The routes that the server takes part in, as entry or as exit. -/
def Db.serves (route : CascadeRoute) : Prop :=
  server.isActive = true ∧ supportsCascade server = true ∧ route ∈ db.routes ∧
    route.enabled = true ∧ db.publishes route = true ∧
    (server.id = route.entryServerId ∨ db.exitsAt server route ≠ [])

theorem desiredRoutes_append (a b : List DesiredItem) :
    desiredRoutes (a ++ b) = desiredRoutes a ++ desiredRoutes b := List.filterMap_append

theorem desiredRoutes_routeItems (route : CascadeRoute) :
    desiredRoutes (routeItems settings db server route) =
      if db.publishes route && route.entryServerId == server.id then
        [publishedRoute settings db route] else [] := by
  have hservices : ∀ l : List (CascadeRouteExit × Server D), desiredRoutes (l.map fun p =>
      DesiredItem.cascadeService (publishedService settings db route p.1)) = [] := by
    intro l
    rw [desiredRoutes, List.filterMap_map]
    exact List.filterMap_eq_nil_iff.2 fun p _ => rfl
  rw [routeItems_eq]
  by_cases hp : db.publishes route = true
  · rw [if_pos hp, desiredRoutes_append, hservices, List.append_nil]
    by_cases he : server.id = route.entryServerId
    · simp [he, hp, desiredRoutes]
    · have he' : ¬ route.entryServerId = server.id := fun h => he h.symm
      simp [he, he', desiredRoutes]
  · simp [hp, desiredRoutes]

theorem desiredRoutes_cascade (hs : supportsCascade server = true) :
    desiredRoutes (buildCascadeItems settings db server) =
      (db.routes.filter (db.enters server)).map (publishedRoute settings db) := by
  rw [buildCascadeItems, if_pos hs]
  induction db.routes with
  | nil => rfl
  | cons route routes ih =>
    by_cases he : route.enabled = true
    · rw [List.filter_cons_of_pos he, List.flatMap_cons, desiredRoutes_append,
        desiredRoutes_routeItems, ih]
      by_cases hp : (db.publishes route && route.entryServerId == server.id) = true
      · have hall : db.enters server route = true := by
          rw [Db.enters, he, Bool.true_and, hp]
        rw [if_pos hp, List.filter_cons_of_pos hall, List.map_cons, List.singleton_append]
      · have hall : ¬ db.enters server route = true := by
          rwa [Db.enters, he, Bool.true_and]
        rw [if_neg hp, List.filter_cons_of_neg hall, List.nil_append]
    · have hall : ¬ db.enters server route = true := by simp [Db.enters, he]
      rw [List.filter_cons_of_neg he, List.filter_cons_of_neg hall, ih]

theorem desiredRoutes_build (now : Int) :
    (desiredRoutes (buildDesiredItems settings db server now)).Perm
      ((db.entryRoutes server).map (publishedRoute settings db)) := by
  rw [buildDesiredItems, Db.entryRoutes]
  by_cases ha : server.isActive = true
  · rw [if_pos ha]
    refine ((List.perm_insertionSort _ _).filterMap _).trans ?_
    have hclients : ∀ l : List DesiredClient, desiredRoutes (l.map .client) = [] := by
      intro l
      rw [desiredRoutes, List.filterMap_map]
      exact List.filterMap_eq_nil_iff.2 fun c _ => rfl
    have hlimits : ∀ l : List DesiredConnLimit, desiredRoutes (l.map .connLimit) = [] := by
      intro l
      rw [desiredRoutes, List.filterMap_map]
      exact List.filterMap_eq_nil_iff.2 fun c _ => rfl
    rw [← desiredRoutes, desiredRoutes_append, desiredRoutes_append, hclients, hlimits]
    by_cases hs : supportsCascade server = true
    · rw [desiredRoutes_cascade settings db server hs, ha, hs]
      exact .refl _
    · simp [hs, buildCascadeItems, desiredRoutes]
  · simp [ha, desiredRoutes]

theorem mem_routeItems {route : CascadeRoute} {item : DesiredItem} :
    item ∈ routeItems settings db server route ↔ db.publishes route = true ∧
      ((server.id = route.entryServerId ∧
          item = .cascadeRoute (publishedRoute settings db route)) ∨
        ∃ p ∈ db.exitsAt server route,
          item = .cascadeService (publishedService settings db route p.1)) := by
  rw [routeItems_eq]
  by_cases hp : db.publishes route = true
  · rw [if_pos hp, List.mem_append, List.mem_map]
    simp only [hp, true_and]
    refine or_congr ?_ ⟨fun ⟨p, h, h'⟩ => ⟨p, h, h'.symm⟩, fun ⟨p, h, h'⟩ => ⟨p, h, h'.symm⟩⟩
    by_cases he : server.id = route.entryServerId
    · simp [he]
    · simp [he]
  · simp [hp]

theorem mem_buildCascadeItems {item : DesiredItem} :
    item ∈ buildCascadeItems settings db server ↔ supportsCascade server = true ∧
      ∃ route ∈ db.routes, route.enabled = true ∧ item ∈ routeItems settings db server route := by
  rw [buildCascadeItems]
  by_cases hs : supportsCascade server = true
  · simp only [hs, ↓reduceIte, true_and, List.mem_flatMap, List.mem_filter, and_assoc]
  · simp [hs]

theorem mem_buildDesiredItems {item : DesiredItem} {now : Int} :
    item ∈ buildDesiredItems settings db server now ↔ server.isActive = true ∧
      ((∃ c ∈ (db.desiredSubscriptions server.id now).flatMap db.clientsOf, .client c = item) ∨
        (∃ l ∈ db.connLimitsOf (db.desiredSubscriptions server.id now), .connLimit l = item) ∨
        item ∈ buildCascadeItems settings db server) := by
  rw [buildDesiredItems]
  by_cases ha : server.isActive = true
  · simp only [ha, ↓reduceIte, true_and, (List.perm_insertionSort _ _).mem_iff, List.mem_append,
      List.mem_map, or_assoc]
  · simp [ha]

end Items

/-! ## Databases whose routes a node can serve -/

/-- Every tag that the route names is a text. -/
def CascadeRoute.Textual (route : CascadeRoute) : Prop := ∀ tag ∈ route.tags, ∃ t, tag = .str t

theorem text_eq_some {tag : Json} : tag.text? = some t ↔ tag = .str t := by
  cases tag <;> simp [Json.text?]

theorem CascadeRoute.tags_ne_nil (route : CascadeRoute) : route.tags ≠ [] := by
  rw [CascadeRoute.tags]
  split
  · exact List.cons_ne_nil _ _
  · assumption

theorem CascadeRoute.textual_iff (route : CascadeRoute) :
    (route.tags.filter fun t => t.text?.isNone) = [] ↔ route.Textual := by
  rw [List.filter_eq_nil_iff, CascadeRoute.Textual]
  refine forall₂_congr fun tag _ => ?_
  rw [Option.isNone_iff_eq_none, ← ne_eq, Option.ne_none_iff_exists']
  simp only [text_eq_some]

theorem CascadeRoute.Textual.texts_ne_nil {route : CascadeRoute} (h : route.Textual) :
    route.tags.filterMap Json.text? ≠ [] := by
  obtain ⟨tag, htag⟩ := List.exists_mem_of_ne_nil _ route.tags_ne_nil
  obtain ⟨t, rfl⟩ := h tag htag
  exact List.ne_nil_of_mem (List.mem_filterMap.2 ⟨_, htag, rfl⟩)

/-- Of textual tags the texts are disjoint where the tags are. -/
theorem CascadeRoute.Textual.disjoint_iff {a b : CascadeRoute} (h : a.Textual) :
    (a.tags.filterMap Json.text?).Disjoint (b.tags.filterMap Json.text?) ↔
      a.tags.Disjoint b.tags := by
  constructor
  · intro hdisjoint tag ha hb
    obtain ⟨t, rfl⟩ := h tag ha
    exact hdisjoint (List.mem_filterMap.2 ⟨_, ha, rfl⟩) (List.mem_filterMap.2 ⟨_, hb, rfl⟩)
  · intro hdisjoint t ha hb
    obtain ⟨tag, hmem, htag⟩ := List.mem_filterMap.1 ha
    obtain ⟨tag', hmem', htag'⟩ := List.mem_filterMap.1 hb
    obtain rfl := text_eq_some.1 htag
    obtain rfl := text_eq_some.1 htag'
    exact hdisjoint hmem hmem'

/-- The database content that the item models and the route checks of a node ask for. -/
structure CascadeFits (db : Db D) (server : Server D) : Prop where
  numbers : ∀ route, db.serves server route → 1 ≤ route.id ∧ 1 ≤ route.revision
  textual : ∀ route ∈ db.entryRoutes server, route.Textual
  exits : ∀ route ∈ db.entryRoutes server, ∀ p ∈ db.routeExits route.id,
    0 ≤ p.1.position ∧ 1 ≤ p.2.port ∧ p.2.port ≤ 65535
  strategies : ∀ route ∈ db.entryRoutes server,
    (truthy route.healthPolicy.strategy).getD "leastPing" = "leastPing"
  paths : ∀ route ∈ db.entryRoutes server, ∀ p ∈ db.routeExits route.id,
    (orSlash p.1.xhttpPath).startsWith "/" = true
  tags : (db.entryRoutes server).Pairwise fun a b => a.tags.Disjoint b.tags

section Fits
variable {settings : ControlSettings D} {db : Db D} {server : Server D}

theorem mem_entryRoutes {route : CascadeRoute} : route ∈ db.entryRoutes server ↔
    db.serves server route ∧ server.id = route.entryServerId := by
  rw [Db.entryRoutes, Db.serves]
  by_cases h : (server.isActive && supportsCascade server) = true
  · obtain ⟨ha, hs⟩ := (Bool.and_eq_true _ _).mp h
    rw [if_pos h, List.mem_filter, Db.enters]
    simp only [ha, hs, Bool.and_eq_true, beq_iff_eq, true_and]
    constructor
    · rintro ⟨hr, ⟨he, hp⟩, hid⟩
      exact ⟨⟨hr, he, hp, .inl hid.symm⟩, hid.symm⟩
    · rintro ⟨⟨hr, he, hp, _⟩, hid⟩
      exact ⟨hr, ⟨he, hp⟩, hid.symm⟩
  · rw [if_neg h]
    refine iff_of_false List.not_mem_nil ?_
    rintro ⟨⟨ha, hs, _⟩, _⟩
    exact h (by rw [ha, hs]; rfl)

theorem published_exits (h : db.publishes route = true) : db.routeExits route.id ≠ [] := by
  rw [Db.publishes] at h
  split at h
  · cases h
  · intro hnil
    simp [hnil] at h

theorem publishedRoute_valid (hdigest : ∀ payload, (settings.routeDigest payload).length = 64)
    (hp : db.publishes route = true) :
    (DesiredItem.cascadeRoute (publishedRoute settings db route)).valid = true ↔
      (1 ≤ route.id ∧ 1 ≤ route.revision) ∧ route.Textual ∧
        ∀ p ∈ db.routeExits route.id, 0 ≤ p.1.position ∧ 1 ≤ p.2.port ∧ p.2.port ≤ 65535 := by
  have hexits := published_exits hp
  have hlength : (currentRouteDigest settings db route).length = 64 := hdigest _
  have htexts : (route.tags.filterMap Json.text? ≠ [] ∧ route.Textual) ↔ route.Textual :=
    ⟨And.right, fun h => ⟨h.texts_ne_nil, h⟩⟩
  rw [publishedRoute, DesiredItem.valid]
  simp only [hlength, beq_self_eq_true, Bool.and_true, Bool.and_eq_true, decide_eq_true_eq,
    List.isEmpty_iff, route.textual_iff, List.map_eq_nil_iff, ne_eq, hexits, not_false_eq_true,
    decide_true, List.all_map, List.all_eq_true, Function.comp_apply, and_assoc]
  rw [← ne_eq, ← and_assoc (a := route.tags.filterMap Json.text? ≠ []), htexts]

theorem publishedService_valid (hdigest : ∀ payload, (settings.routeDigest payload).length = 64)
    (route : CascadeRoute) (e : CascadeRouteExit) :
    (DesiredItem.cascadeService (publishedService settings db route e)).valid = true ↔
      1 ≤ route.id ∧ 1 ≤ route.revision := by
  have hlength : (currentRouteDigest settings db route).length = 64 := hdigest _
  rw [publishedService]
  simp only [DesiredItem.valid, hlength, beq_self_eq_true, Bool.and_true,
    Bool.and_eq_true, decide_eq_true_eq]

theorem items_valid_iff (hdigest : ∀ payload, (settings.routeDigest payload).length = 64)
    (now : Int) : (∀ item ∈ buildDesiredItems settings db server now, item.valid = true) ↔
      (∀ route, db.serves server route → 1 ≤ route.id ∧ 1 ≤ route.revision) ∧
        ∀ route ∈ db.entryRoutes server, route.Textual ∧ ∀ p ∈ db.routeExits route.id,
          0 ≤ p.1.position ∧ 1 ≤ p.2.port ∧ p.2.port ≤ 65535 := by
  -- the items of a route that the server takes part in are among the desired ones
  have hitems : ∀ route item, db.serves server route →
      item ∈ routeItems settings db server route →
      item ∈ buildDesiredItems settings db server now := by
    rintro route item ⟨ha, hs, hr, he, _⟩ hitem
    exact (mem_buildDesiredItems settings db server).2 ⟨ha, .inr (.inr
      ((mem_buildCascadeItems settings db server).2 ⟨hs, route, hr, he, hitem⟩))⟩
  constructor
  · intro hall
    have hroute : ∀ route, db.serves server route → server.id = route.entryServerId →
        (1 ≤ route.id ∧ 1 ≤ route.revision) ∧ route.Textual ∧
          ∀ p ∈ db.routeExits route.id, 0 ≤ p.1.position ∧ 1 ≤ p.2.port ∧ p.2.port ≤ 65535 := by
      intro route hserves hid
      have hp : db.publishes route = true := hserves.2.2.2.2.1
      exact (publishedRoute_valid hdigest hp).1 (hall _ (hitems route _ hserves
        ((mem_routeItems settings db server).2 ⟨hp, .inl ⟨hid, rfl⟩⟩)))
    refine ⟨fun route hserves => ?_, fun route hr => ?_⟩
    · rcases hserves.2.2.2.2.2 with hid | hexit
      · exact (hroute route hserves hid).1
      · obtain ⟨p, hp⟩ := List.exists_mem_of_ne_nil _ hexit
        exact (publishedService_valid hdigest route p.1).1 (hall _ (hitems route _ hserves
          ((mem_routeItems settings db server).2 ⟨hserves.2.2.2.2.1, .inr ⟨p, hp, rfl⟩⟩)))
    · obtain ⟨hserves, hid⟩ := mem_entryRoutes.1 hr
      exact (hroute route hserves hid).2
  · rintro ⟨hnumbers, hports⟩ item hitem
    obtain ⟨ha, ⟨c, _, rfl⟩ | ⟨l, _, rfl⟩ | hcascade⟩ :=
      (mem_buildDesiredItems settings db server).1 hitem
    · rfl
    · rfl
    · obtain ⟨hs, route, hr, he, hitem⟩ := (mem_buildCascadeItems settings db server).1 hcascade
      obtain ⟨hp, ⟨hid, rfl⟩ | ⟨p, hpe, rfl⟩⟩ := (mem_routeItems settings db server).1 hitem
      · have hserves : db.serves server route := ⟨ha, hs, hr, he, hp, .inl hid⟩
        exact (publishedRoute_valid hdigest hp).2
          ⟨hnumbers route hserves, hports route (mem_entryRoutes.2 ⟨hserves, hid⟩)⟩
      · exact (publishedService_valid hdigest route p.1).2 (hnumbers route
          ⟨ha, hs, hr, he, hp, .inr (List.ne_nil_of_mem hpe)⟩)

theorem publishedRoute_supported (route : CascadeRoute) :
    RouteSupported (publishedRoute settings db route) ↔
      (truthy route.healthPolicy.strategy).getD "leastPing" = "leastPing" ∧
        ∀ p ∈ db.routeExits route.id, (orSlash p.1.xhttpPath).startsWith "/" = true := by
  simp only [RouteSupported, routeStrategy, publishedRoute, List.forall_mem_map]

/-- The routes of the items apply exactly if each can be served and no two claim one inbound. -/
theorem routes_apply_iff (now : Int) (config : XrayConfig) :
    (∃ cascaded, applyCascadeRoutes config
        (desiredRoutes (buildDesiredItems settings db server now)) = .ok cascaded) ↔
      (∀ route ∈ db.entryRoutes server, RouteSupported (publishedRoute settings db route)) ∧
        (db.entryRoutes server).Pairwise fun a b =>
          (a.tags.filterMap Json.text?).Disjoint (b.tags.filterMap Json.text?) := by
  have hsymm : ∀ {a b : DesiredCascadeRoute}, a.inboundTags.Disjoint b.inboundTags →
      b.inboundTags.Disjoint a.inboundTags := by
    intro a b h t hb ha
    exact h ha hb
  have hperm := desiredRoutes_build settings db server now
  rw [applyCascadeRoutes_ok_iff, hperm.pairwise_iff hsymm, List.pairwise_map]
  simp only [hperm.mem_iff, List.forall_mem_map]
  rfl

/-- The node parses the items of the control plane and applies their routes, exactly if the
content of the database fits. -/
theorem published_routes_apply (hdigest : ∀ payload, (settings.routeDigest payload).length = 64)
    (now : Int) (config : XrayConfig) :
    ((∀ item ∈ buildDesiredItems settings db server now, item.valid = true) ∧
      ∃ cascaded, applyCascadeRoutes config
        (desiredRoutes (buildDesiredItems settings db server now)) = .ok cascaded) ↔
      CascadeFits db server := by
  rw [items_valid_iff hdigest, routes_apply_iff]
  simp only [publishedRoute_supported]
  have hdisjoint : (∀ route ∈ db.entryRoutes server, route.Textual) →
      ((db.entryRoutes server).Pairwise (fun a b =>
          (a.tags.filterMap Json.text?).Disjoint (b.tags.filterMap Json.text?)) ↔
        (db.entryRoutes server).Pairwise fun a b => a.tags.Disjoint b.tags) := fun htextual =>
    List.Pairwise.iff_of_mem fun ha _ => (htextual _ ha).disjoint_iff
  constructor
  · rintro ⟨⟨hnumbers, hroutes⟩, hsupported, htags⟩
    have htextual := fun r hr => (hroutes r hr).1
    exact ⟨hnumbers, htextual, fun r hr => (hroutes r hr).2, fun r hr => (hsupported r hr).1,
      fun r hr => (hsupported r hr).2, (hdisjoint htextual).1 htags⟩
  · intro h
    exact ⟨⟨h.numbers, fun r hr => ⟨h.textual r hr, h.exits r hr⟩⟩,
      fun r hr => ⟨h.strategies r hr, h.paths r hr⟩, (hdisjoint h.textual).2 h.tags⟩

end Fits

/-- Digests of routes that have the length of a digest. -/
def paddedSettings : ControlSettings (List DesiredItem) :=
  ⟨id, fun _ => String.ofList (List.replicate 64 '0'), 500⟩

def cascadeServer (id : Nat) : Server (List DesiredItem) :=
  ⟨id, "203.0.113.1", 443, "pk", "sid", "agent", .pull, 0, 0, none, some ["cascade-v2"], .both,
    true, true⟩

/-- An entry with one route through an exit. -/
def oneRouteDb : Db (List DesiredItem) :=
  { Db.empty with
    servers := [cascadeServer 1, cascadeServer 2]
    routes := [⟨1, "first", 1, true, 1, ⟨[]⟩, []⟩]
    exits := [⟨1, 2, 0, "s1", "example.org", "", true⟩] }

/-- A second route of the same entry; neither names its inbound. -/
def twoRoutesDb : Db (List DesiredItem) :=
  { oneRouteDb with
    routes := oneRouteDb.routes ++ [⟨2, "second", 1, true, 1, ⟨[]⟩, []⟩]
    exits := oneRouteDb.exits ++ [⟨2, 2, 0, "s2", "example.org", "", true⟩] }

theorem published_routes_apply_one :
    (∀ item ∈ buildDesiredItems paddedSettings oneRouteDb (cascadeServer 1) 0,
      item.valid = true) ∧
    ∃ cascaded, applyCascadeRoutes servedConfig
      (desiredRoutes (buildDesiredItems paddedSettings oneRouteDb (cascadeServer 1) 0)) =
        .ok cascaded := by
  have hlength : ∀ payload, (paddedSettings.routeDigest payload).length = 64 := by
    intro payload
    exact (by decide : (String.ofList (List.replicate 64 '0')).length = 64)
  have hentry : oneRouteDb.entryRoutes (cascadeServer 1) = oneRouteDb.routes := by decide
  refine (published_routes_apply hlength 0 servedConfig).2 ⟨?_, ?_, ?_, ?_, ?_, ?_⟩
  · intro route hserves
    obtain rfl := List.mem_singleton.1 hserves.2.2.1
    decide
  · rw [hentry]
    intro route hroute tag htag
    obtain rfl := List.mem_singleton.1 hroute
    exact ⟨_, List.mem_singleton.1 htag⟩
  · rw [hentry]
    decide
  · rw [hentry]
    decide
  · rw [hentry]
    decide +kernel
  · rw [hentry]
    exact List.pairwise_singleton _ _

/-- Two routes without inbound tags are published to their entry, which applies neither, and
keeps a client that the same snapshot revokes. -/
theorem conflicting_routes_block_revocation :
    let items := buildDesiredItems paddedSettings twoRoutesDb (cascadeServer 1) 0
    (∀ item ∈ items, item.valid = true) ∧ (desiredRoutes items).length = 2 ∧
    (∀ cascaded, applyCascadeRoutes servedConfig (desiredRoutes items) ≠ .ok cascaded) ∧
    desiredClients items 0 = [] ∧
    "u1" ∈ configuredIds (runOk (reconcileSnapshot liveSettings ⟨2, 2, items, items⟩ false 0)
      sessionNode).2.config := by
  refine ⟨by decide, by decide, fun cascaded h => ?_, by decide,
    by decide +kernel⟩
  have herror : applyCascadeRoutes servedConfig (desiredRoutes
      (buildDesiredItems paddedSettings twoRoutesDb (cascadeServer 1) 0)) =
        .error (.inboundClaimed ["vless-in"]) := by decide +kernel
  rw [herror] at h
  cases h

end AegisVPN
