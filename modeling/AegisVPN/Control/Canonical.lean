import Mathlib.Data.Prod.Lex
import Mathlib.Data.List.Lex
import Mathlib.Data.List.Dedup
import Mathlib.Data.List.Perm.Basic
import AegisVPN.Library.Digits
import AegisVPN.Library.SortedBy
import AegisVPN.Control.Publication

namespace AegisVPN
open Library
set_option autoImplicit true

/-! ## The order of items -/

/-- A text as the numbers of its characters. -/
def codes (s : String) : List Nat := s.toList.map Char.toNat

theorem codes_inj (h : codes s = codes t) : s = t := by
  have hchars : s.toList = t.toList :=
    List.map_injective_iff.2 (fun a b hab => Char.toNat_inj.1 hab) h
  exact String.toList_inj.1 hchars

theorem textBefore_iff {s t : String} : textBefore s t = true ↔ codes s < codes t := by
  rw [textBefore]
  exact List.lex_eq_true_iff_lt

def keyCodes (item : DesiredItem) : List (List Nat) := (itemSortKey item).map codes

theorem lex_codes {k k' : List String} :
    k.lex k' textBefore = true ↔ k.map codes < k'.map codes := by
  induction k generalizing k' with
  | nil => cases k' <;> simp
  | cons s k ih =>
    cases k' with
    | nil => simp
    | cons t k' =>
      have hsame : s = t ↔ codes s = codes t := ⟨congrArg codes, codes_inj⟩
      rw [List.cons_lex_cons, Bool.or_eq_true, Bool.and_eq_true, beq_iff_eq, textBefore_iff, ih,
        List.map_cons, List.map_cons, List.cons_lt_cons_iff, hsame]

theorem keyBefore_iff (a b : DesiredItem) :
    keyBefore (itemSortKey b) (itemSortKey a) = false ↔ keyCodes a ≤ keyCodes b := by
  rw [← Bool.not_eq_true, keyBefore, lex_codes, not_lt]
  exact Iff.rfl

theorem zeroPadded_toList (n : Nat) : (zeroPadded n).toList =
    List.replicate (20 - (toString (n : Int)).length) '0' ++ Nat.toDigits 10 n := by
  have hdigits : (toString (n : Int)).toList = Nat.toDigits 10 n := Nat.toList_repr
  simp only [zeroPadded, String.toList_append, String.toList_ofList, hdigits]

theorem zeroPadded_inj {m n : Nat} (h : zeroPadded m = zeroPadded n) : m = n := by
  have hlists : (zeroPadded m).toList = (zeroPadded n).toList := congrArg String.toList h
  rw [zeroPadded_toList, zeroPadded_toList] at hlists
  exact padded_inj hlists

/-! ## The emails of clients -/

theorem subscriptionEmail_toList (sub : Subscription) : (subscriptionEmail sub).toList =
    "user_".toList ++ (Nat.toDigits 10 sub.userId ++ '_' ::
      ("sub_".toList ++ Nat.toDigits 10 sub.id)) := by
  simp [subscriptionEmail, toString]

theorem deviceEmail_toList (sub : Subscription) (device : Device) :
    (deviceEmail sub device).toList = "user_".toList ++ (Nat.toDigits 10 sub.userId ++ '_' ::
      ("sub_".toList ++ (Nat.toDigits 10 sub.id ++ '_' ::
        ("dev_".toList ++ Nat.toDigits 10 device.id)))) := by
  simp [deviceEmail, subscriptionEmail, toString]

theorem underscore_not_digit (n : Nat) : '_' ∉ Nat.toDigits 10 n := Nat.underscore_not_in_toDigits

theorem subscriptionEmail_inj {sub sub' : Subscription}
    (h : subscriptionEmail sub = subscriptionEmail sub') : sub.id = sub'.id := by
  have hlists : (subscriptionEmail sub).toList = (subscriptionEmail sub').toList :=
    congrArg String.toList h
  rw [subscriptionEmail_toList, subscriptionEmail_toList] at hlists
  obtain ⟨_, htail⟩ := eq_of_separated (underscore_not_digit _) (underscore_not_digit _)
    (List.append_cancel_left hlists)
  exact toDigits_inj (List.append_cancel_left htail)

theorem deviceEmail_inj {sub sub' : Subscription} {device device' : Device}
    (h : deviceEmail sub device = deviceEmail sub' device') :
    sub.id = sub'.id ∧ device.id = device'.id := by
  have hlists : (deviceEmail sub device).toList = (deviceEmail sub' device').toList :=
    congrArg String.toList h
  rw [deviceEmail_toList, deviceEmail_toList] at hlists
  obtain ⟨_, htail⟩ := eq_of_separated (underscore_not_digit _) (underscore_not_digit _)
    (List.append_cancel_left hlists)
  obtain ⟨hsub, htail'⟩ := eq_of_separated (underscore_not_digit _) (underscore_not_digit _)
    (List.append_cancel_left htail)
  exact ⟨toDigits_inj hsub, toDigits_inj (List.append_cancel_left htail')⟩

theorem subscriptionEmail_ne (sub sub' : Subscription) (device : Device) :
    subscriptionEmail sub ≠ deviceEmail sub' device := by
  intro h
  have hlists : (subscriptionEmail sub).toList = (deviceEmail sub' device).toList :=
    congrArg String.toList h
  rw [subscriptionEmail_toList, deviceEmail_toList] at hlists
  obtain ⟨_, htail⟩ := eq_of_separated (underscore_not_digit _) (underscore_not_digit _)
    (List.append_cancel_left hlists)
  have hdigits : Nat.toDigits 10 sub.id = Nat.toDigits 10 sub'.id ++ '_' ::
      ("dev_".toList ++ Nat.toDigits 10 device.id) := List.append_cancel_left htail
  refine underscore_not_digit sub.id ?_
  rw [hdigits]
  exact List.mem_append_right _ List.mem_cons_self

/-! ## The same rows in any order -/

/-- What the tables promise: keys are keys. -/
structure Db.Keyed (db : Db D) : Prop where
  users : (db.users.map User.id).Nodup
  subscriptions : (db.subscriptions.map Subscription.id).Nodup
  devices : (db.devices.map Device.id).Nodup
  servers : (db.servers.map Server.id).Nodup
  routes : (db.routes.map CascadeRoute.id).Nodup
  exits : (db.exits.map fun e => (e.routeId, e.exitServerId)).Nodup

/-- The tables that items are built from have the same rows. -/
structure EqualRows (d e : Db D) : Prop where
  users : ∀ u, u ∈ d.users ↔ u ∈ e.users
  subscriptions : ∀ s, s ∈ d.subscriptions ↔ s ∈ e.subscriptions
  links : ∀ l, l ∈ d.links ↔ l ∈ e.links
  devices : ∀ v, v ∈ d.devices ↔ v ∈ e.devices
  servers : ∀ s, s ∈ d.servers ↔ s ∈ e.servers
  routes : ∀ r, r ∈ d.routes ↔ r ∈ e.routes
  exits : ∀ x, x ∈ d.exits ↔ x ∈ e.exits

section Rows
variable {d e : Db D} (hd : d.Keyed) (he : e.Keyed) (h : EqualRows d e)
include hd he h

omit hd in
theorem EqualRows.server (serverId : Nat) : d.server serverId = e.server serverId :=
  find?_rows he.servers h.servers serverId

theorem EqualRows.desiredSubscriptions (serverId : Nat) (now : Int) :
    (d.desiredSubscriptions serverId now).Perm (e.desiredSubscriptions serverId now) := by
  have hlinked : d.linked serverId = e.linked serverId := by
    funext sub
    rw [Bool.eq_iff_iff, Db.linked, Db.linked, List.any_eq_true, List.any_eq_true]
    exact exists_congr fun l => and_congr_left fun _ => h.links l
  rw [Db.desiredSubscriptions, Db.desiredSubscriptions, hlinked]
  exact (rows_perm hd.subscriptions he.subscriptions h.subscriptions).filter _

theorem EqualRows.clientsOf (sub : Subscription) : (d.clientsOf sub).Perm (e.clientsOf sub) := by
  rw [Db.clientsOf, Db.clientsOf]
  exact ((rows_perm hd.devices he.devices h.devices).filter _ |>.map _).cons _

omit hd in
theorem EqualRows.connLimitsOf {subs subs' : List Subscription} (hsubs : subs.Perm subs') :
    (d.connLimitsOf subs).Perm (e.connLimitsOf subs') := by
  have huser : ∀ i, (d.users.find? fun u => u.id == i) = e.users.find? fun u => u.id == i :=
    find?_rows he.users h.users
  simp only [Db.connLimitsOf, huser]
  exact (hsubs.filterMap _).dedup

theorem EqualRows.routeExits (routeId : Nat) : d.routeExits routeId = e.routeExits routeId := by
  have hserver : d.server = e.server := funext (h.server he)
  have hperm : (d.exits.filter fun x => x.routeId == routeId && x.enabled).Perm
      (e.exits.filter fun x => x.routeId == routeId && x.enabled) :=
    (rows_perm hd.exits he.exits h.exits).filter _
  rw [Db.routeExits, Db.routeExits, hserver]
  have horder : ∀ a b : CascadeRouteExit, (a.position < b.position ∨ a.position = b.position ∧
      a.exitServerId ≤ b.exitServerId) ↔
        toLex (a.position, a.exitServerId) ≤ toLex (b.position, b.exitServerId) := by
    intro a b
    rw [Prod.Lex.toLex_le_toLex]
  refine congrArg (List.filterMap _) (insertionSort_perm
    (fun x : CascadeRouteExit => toLex (x.position, x.exitServerId)) horder hperm ?_)
  intro a ha b hb hkey
  obtain ⟨hmem, hroute⟩ := List.mem_filter.1 ha
  obtain ⟨hmem', hroute'⟩ := List.mem_filter.1 hb
  rw [Bool.and_eq_true, beq_iff_eq] at hroute hroute'
  have hexit : a.exitServerId = b.exitServerId := (Prod.mk.inj (toLex_inj.1 hkey)).2
  exact List.inj_on_of_nodup_map hd.exits hmem hmem'
    (Prod.ext (hroute.1.trans hroute'.1.symm) hexit)

theorem EqualRows.routeItems (settings : ControlSettings D) (server : Server D)
    (route : CascadeRoute) : AegisVPN.routeItems settings d server route =
      AegisVPN.routeItems settings e server route := by
  simp only [AegisVPN.routeItems, currentRouteDigest, h.routeExits hd he, h.server he]

theorem EqualRows.cascadeItems (settings : ControlSettings D) (server : Server D) :
    (buildCascadeItems settings d server).Perm (buildCascadeItems settings e server) := by
  have hitems : AegisVPN.routeItems settings d server = AegisVPN.routeItems settings e server :=
    funext (h.routeItems hd he settings server)
  rw [buildCascadeItems, buildCascadeItems, hitems]
  split
  · exact ((rows_perm hd.routes he.routes h.routes).filter _).flatMap_right _
  · exact .refl _

end Rows

/-! ## Keys tell the items of one server apart -/

section Keys
variable {db : Db D} (hdb : db.Keyed) {settings : ControlSettings D} {server : Server D}

theorem mem_clientsOf {sub : Subscription} {c : DesiredClient} (h : c ∈ db.clientsOf sub) :
    c = ⟨sub.clientUuid, subscriptionEmail sub, expiryMs sub.expiresAt⟩ ∨
      ∃ v ∈ db.devices, c = ⟨v.uuid, deviceEmail sub v, expiryMs sub.expiresAt⟩ := by
  rcases List.mem_cons.1 h with rfl | h
  · exact .inl rfl
  · obtain ⟨v, hv, rfl⟩ := List.mem_map.1 h
    exact .inr ⟨v, (List.mem_filter.1 hv).1, rfl⟩

include hdb in
theorem Db.Keyed.client_eq {subs : List Subscription} (hsubs : ∀ s ∈ subs, s ∈ db.subscriptions)
    {c c' : DesiredClient} (hc : c ∈ subs.flatMap db.clientsOf)
    (hc' : c' ∈ subs.flatMap db.clientsOf) (hemail : c.email = c'.email) : c = c' := by
  obtain ⟨s, hs, hc⟩ := List.mem_flatMap.1 hc
  obtain ⟨s', hs', hc'⟩ := List.mem_flatMap.1 hc'
  have hsame : s.id = s'.id → s = s' :=
    List.inj_on_of_nodup_map hdb.subscriptions (hsubs s hs) (hsubs s' hs')
  rcases mem_clientsOf hc with rfl | ⟨v, hv, rfl⟩
  · rcases mem_clientsOf hc' with rfl | ⟨v', _, rfl⟩
    · rw [hsame (subscriptionEmail_inj hemail)]
    · exact absurd hemail (subscriptionEmail_ne s s' v')
  · rcases mem_clientsOf hc' with rfl | ⟨v', hv', rfl⟩
    · exact absurd hemail.symm (subscriptionEmail_ne s' s v)
    · obtain ⟨hsub, hdevice⟩ := deviceEmail_inj hemail
      rw [hsame hsub, List.inj_on_of_nodup_map hdb.devices hv hv' hdevice]

theorem mem_connLimitsOf {subs : List Subscription} {l : DesiredConnLimit}
    (h : l ∈ db.connLimitsOf subs) : ∃ (userId : Nat) (limit : Int),
      ((db.users.find? fun u => u.id == userId).bind User.connLimit) = some limit ∧
        l = ⟨userId, limit.toNat⟩ := by
  obtain ⟨s, _, hs⟩ := List.mem_filterMap.1 (List.mem_dedup.1 h)
  obtain ⟨user, hfind, hs⟩ := Option.bind_eq_some_iff.1 hs
  obtain ⟨limit, hlimit, hs⟩ := Option.bind_eq_some_iff.1 hs
  refine ⟨s.userId, limit, ?_, (Option.some.inj hs).symm⟩
  rw [hfind]
  exact hlimit

theorem connLimit_eq {subs : List Subscription} {l l' : DesiredConnLimit}
    (hl : l ∈ db.connLimitsOf subs) (hl' : l' ∈ db.connLimitsOf subs)
    (huser : zeroPadded l.userId = zeroPadded l'.userId) : l = l' := by
  obtain ⟨userId, limit, hlimit, rfl⟩ := mem_connLimitsOf hl
  obtain ⟨userId', limit', hlimit', rfl⟩ := mem_connLimitsOf hl'
  obtain rfl : userId = userId' := zeroPadded_inj huser
  rw [hlimit'] at hlimit
  cases hlimit
  rfl

theorem routeItems_forms {route : CascadeRoute} {item : DesiredItem}
    (h : item ∈ routeItems settings db server route) :
    item = .cascadeRoute ⟨route.id, route.revision, currentRouteDigest settings db route,
      route.label, route.tags.filterMap Json.text?, route.tags.filter fun t => t.text?.isNone,
      (db.routeExits route.id).map fun (e, s) => ⟨e.position, s.host, s.port, e.serviceUuid,
        s.publicKey, s.shortId, e.serverName, orSlash e.xhttpPath⟩, route.healthPolicy⟩ ∨
    ∃ entry uuid, db.server route.entryServerId = some entry ∧
      item = .cascadeService ⟨route.id, route.revision, currentRouteDigest settings db route, uuid,
        s!"cascade_route_{route.id}_entry_{entry.id}"⟩ := by
  simp only [routeItems] at h
  cases hentry : db.server route.entryServerId with
  | none =>
    rw [hentry] at h
    cases h
  | some entry =>
    rw [hentry] at h
    simp only at h
    split at h
    · rcases List.mem_append.1 h with h | h
      · split at h
        · exact .inl (List.mem_singleton.1 h)
        · cases h
      · obtain ⟨exit, _, rfl⟩ := List.mem_map.1 h
        exact .inr ⟨entry, exit.1.serviceUuid, rfl, rfl⟩
    · cases h

theorem mem_cascadeItems {item : DesiredItem} (h : item ∈ buildCascadeItems settings db server) :
    ∃ route ∈ db.routes, item ∈ routeItems settings db server route := by
  rw [buildCascadeItems] at h
  split at h
  · obtain ⟨route, hroute, hitem⟩ := List.mem_flatMap.1 h
    exact ⟨route, (List.mem_filter.1 hroute).1, hitem⟩
  · cases h

variable (settings) in
/-- The items of a server before they are sorted. -/
def itemRows (db : Db D) (server : Server D) (now : Int) : List DesiredItem :=
  ((db.desiredSubscriptions server.id now).flatMap db.clientsOf).map DesiredItem.client ++
    (db.connLimitsOf (db.desiredSubscriptions server.id now)).map DesiredItem.connLimit ++
    buildCascadeItems settings db server

theorem client_mem_itemRows (h : .client c ∈ itemRows settings db server now) :
    c ∈ (db.desiredSubscriptions server.id now).flatMap db.clientsOf := by
  rcases List.mem_append.1 h with h | h
  · rcases List.mem_append.1 h with h | h
    · obtain ⟨c', hc', heq⟩ := List.mem_map.1 h
      cases heq
      exact hc'
    · obtain ⟨l, _, heq⟩ := List.mem_map.1 h
      cases heq
  · obtain ⟨route, _, hitem⟩ := mem_cascadeItems h
    rcases routeItems_forms hitem with heq | ⟨_, _, _, heq⟩ <;> cases heq

theorem connLimit_mem_itemRows (h : .connLimit l ∈ itemRows settings db server now) :
    l ∈ db.connLimitsOf (db.desiredSubscriptions server.id now) := by
  rcases List.mem_append.1 h with h | h
  · rcases List.mem_append.1 h with h | h
    · obtain ⟨c, _, heq⟩ := List.mem_map.1 h
      cases heq
    · obtain ⟨l', hl', heq⟩ := List.mem_map.1 h
      cases heq
      exact hl'
  · obtain ⟨route, _, hitem⟩ := mem_cascadeItems h
    rcases routeItems_forms hitem with heq | ⟨_, _, _, heq⟩ <;> cases heq

theorem cascade_mem_itemRows (h : a ∈ itemRows settings db server now)
    (hclient : ∀ c, a ≠ .client c) (hlimit : ∀ l, a ≠ .connLimit l) :
    ∃ route ∈ db.routes, a ∈ routeItems settings db server route := by
  rcases List.mem_append.1 h with h | h
  · rcases List.mem_append.1 h with h | h
    · obtain ⟨c, _, heq⟩ := List.mem_map.1 h
      exact absurd heq.symm (hclient c)
    · obtain ⟨l, _, heq⟩ := List.mem_map.1 h
      exact absurd heq.symm (hlimit l)
  · exact mem_cascadeItems h

include hdb in
theorem Db.Keyed.cascadeRoute_eq {r r' : DesiredCascadeRoute}
    (hr : .cascadeRoute r ∈ itemRows settings db server now)
    (hr' : .cascadeRoute r' ∈ itemRows settings db server now) (hid : r.routeId = r'.routeId) :
    r = r' := by
  obtain ⟨route, hroute, hitem⟩ := cascade_mem_itemRows hr (fun _ => by simp) (fun _ => by simp)
  obtain ⟨route', hroute', hitem'⟩ := cascade_mem_itemRows hr' (fun _ => by simp) (fun _ => by simp)
  rcases routeItems_forms hitem with heq | ⟨_, _, _, heq⟩
  · rcases routeItems_forms hitem' with heq' | ⟨_, _, _, heq'⟩
    · cases heq
      cases heq'
      rw [List.inj_on_of_nodup_map hdb.routes hroute hroute' hid]
    · cases heq'
  · cases heq

include hdb in
theorem Db.Keyed.cascadeService_eq {s s' : DesiredCascadeService}
    (hs : .cascadeService s ∈ itemRows settings db server now)
    (hs' : .cascadeService s' ∈ itemRows settings db server now) (hid : s.routeId = s'.routeId)
    (huuid : s.uuid = s'.uuid) : s = s' := by
  obtain ⟨route, hroute, hitem⟩ := cascade_mem_itemRows hs (fun _ => by simp) (fun _ => by simp)
  obtain ⟨route', hroute', hitem'⟩ := cascade_mem_itemRows hs' (fun _ => by simp) (fun _ => by simp)
  rcases routeItems_forms hitem with heq | ⟨entry, uuid, hentry, heq⟩
  · cases heq
  · rcases routeItems_forms hitem' with heq' | ⟨entry', uuid', hentry', heq'⟩
    · cases heq'
    · cases heq
      cases heq'
      obtain rfl : route = route' := List.inj_on_of_nodup_map hdb.routes hroute hroute' hid
      obtain rfl : uuid = uuid' := huuid
      rw [hentry] at hentry'
      cases hentry'
      rfl

include hdb in
theorem Db.Keyed.item_eq {a b : DesiredItem} (ha : a ∈ itemRows settings db server now)
    (hb : b ∈ itemRows settings db server now) (hkey : itemSortKey a = itemSortKey b) : a = b := by
  cases a with
  | client c =>
    cases b with
    | client c' =>
      have hemail : c.email = c'.email := (List.cons.inj (List.cons.inj hkey).2).1
      rw [hdb.client_eq (fun s hs => (List.mem_filter.1 hs).1) (client_mem_itemRows ha)
        (client_mem_itemRows hb) hemail]
    | _ => simp [itemSortKey] at hkey
  | connLimit l =>
    cases b with
    | connLimit l' =>
      have huser : zeroPadded l.userId = zeroPadded l'.userId :=
        (List.cons.inj (List.cons.inj hkey).2).1
      rw [connLimit_eq (connLimit_mem_itemRows ha) (connLimit_mem_itemRows hb) huser]
    | _ => simp [itemSortKey] at hkey
  | cascadeService s =>
    cases b with
    | cascadeService s' =>
      have htail := (List.cons.inj hkey).2
      have hid : s.routeId = s'.routeId := zeroPadded_inj (List.cons.inj htail).1
      have huuid : s.uuid = s'.uuid := (List.cons.inj (List.cons.inj htail).2).1
      rw [hdb.cascadeService_eq ha hb hid huuid]
    | _ => simp [itemSortKey] at hkey
  | cascadeRoute r =>
    cases b with
    | cascadeRoute r' =>
      have hid : r.routeId = r'.routeId := zeroPadded_inj (List.cons.inj (List.cons.inj hkey).2).1
      rw [hdb.cascadeRoute_eq ha hb hid]
    | _ => simp [itemSortKey] at hkey

end Keys

/-- The items of a server do not depend on the order of the rows. -/
theorem EqualRows.buildDesiredItems {d e : Db D} (hd : d.Keyed) (he : e.Keyed) (h : EqualRows d e)
    (settings : ControlSettings D) (server : Server D) (now : Int) :
    AegisVPN.buildDesiredItems settings d server now =
      AegisVPN.buildDesiredItems settings e server now := by
  have hsubs := h.desiredSubscriptions hd he server.id now
  have hperm : (itemRows settings d server now).Perm (itemRows settings e server now) := by
    refine .append (.append ?_ ?_) (h.cascadeItems hd he settings server)
    · exact (hsubs.flatMap fun sub _ => h.clientsOf hd he sub).map _
    · exact (h.connLimitsOf he hsubs).map _
  rw [AegisVPN.buildDesiredItems, AegisVPN.buildDesiredItems]
  split
  · refine insertionSort_perm keyCodes keyBefore_iff hperm fun a ha b hb hkey => ?_
    exact hd.item_eq ha hb (List.map_injective_iff.2 (fun _ _ => codes_inj) hkey)
  · rfl

end AegisVPN
