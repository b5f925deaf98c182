import AegisVPN.Bot.DocumentNodes
import AegisVPN.Library.Dicts
import AegisVPN.Library.Runs
import Mathlib.Algebra.Order.BigOperators.Group.List
import Mathlib.Algebra.Order.Group.Nat
import Mathlib.Logic.Function.Basic

namespace AegisVPN
open Library
set_option autoImplicit true

/-! # Documents that are published page by page -/

/-! ## The service -/

/-- The page service. A page is created at a path that was not in use, an edited page shows what it
was given, and other pages stay. An edit may be refused. -/
structure PageService (σ : Type) where
  url : String → String
  shown : σ → String → Option (List Json)
  create : σ → List Json → σ × String
  edit : σ → String → List Json → Option σ
  url_injective : Function.Injective url
  create_new : ∀ s content, shown s (url (create s content).2) = none
  create_shown : ∀ s content,
    shown (create s content).1 (url (create s content).2) = some content
  create_others : ∀ s content u, u ≠ url (create s content).2 →
    shown (create s content).1 u = shown s u
  edit_shown : ∀ s path content s', edit s path content = some s' →
    shown s' (url path) = some content
  edit_others : ∀ s path content s' u, edit s path content = some s' → u ≠ url path →
    shown s' u = shown s u

/-- A request is answered, or it does not arrive, or only its answer is lost. -/
inductive PageFate
  | answered
  | lost
  | applied

/-- A file is stored, or stays as it is, or is left without valid content. -/
inductive SaveFate
  | stored
  | kept
  | emptied
  deriving DecidableEq

/-! ## Publications -/

structure PublishedDocument where
  slug : String
  language : String
  deriving DecidableEq

/-- A page of a document. -/
structure PageKey where
  doc : PublishedDocument
  number : Nat
  deriving DecidableEq

/-- What is stored of the service. -/
structure PageCache where
  token : Bool
  urls : List (PublishedDocument × String)
  hashes : List (PublishedDocument × String)
  paths : List (PageKey × String)

def PageCache.empty : PageCache := ⟨false, [], [], []⟩

def PageCache.url (cache : PageCache) (doc : PublishedDocument) : Option String :=
  cache.urls.lookup doc

def PageCache.path (cache : PageCache) (key : PageKey) : Option String := cache.paths.lookup key

/-- The file after a publication has saved what it has. -/
def saveCache (file cache : PageCache) : SaveFate → PageCache
  | .stored => cache
  | .kept => file
  | .emptied => .empty

def nextLabel (language : String) : String :=
  if language = "ru" then "Далее →" else "Next →"

/-- The link to the next page. -/
def nextNode (url label : String) : Json :=
  tagNode "p" [.obj [("tag", .str "a"), ("attrs", .obj [("href", .str url)]),
    ("children", .arr [.str label])]]

def pageContent (doc : PublishedDocument) (chunk : List Json) (nextUrl : Option String) :
    List Json :=
  chunk ++ (nextUrl.map fun url => nextNode url (nextLabel doc.language)).toList

/-- A publication under way: what it has loaded and changed, the pages that are left, the last one
first, the URL of the page after them, and where the service has put the page that it waits for. -/
structure Publication where
  doc : PublishedDocument
  text : List Char
  cache : PageCache
  left : List (List Json)
  nextUrl : Option String
  placed : Option String

/-- The service, and of each path for which page it was created. -/
structure PageState (σ : Type) where
  service : σ
  owner : String → Option PageKey

structure PageWorld (σ : Type) where
  state : PageState σ
  file : PageCache
  running : Nat → Option Publication

inductive PageOutcome
  | stored (url : Option String)
  | finished (url : String)
  | failed (staleUrl : Option String)

/-- Publications are begun in any order and while others run, and others go on while one waits for
an answer. Other people create and edit pages of their own. -/
inductive PageEvent (σ : Type)
  | getPageUrl (slot : Nat) (doc : PublishedDocument) (text : List Char)
  | request (slot : Nat) (fate : PageFate) (save : SaveFate)
  | answer (slot : Nat) (save : SaveFate)
  | others (service : σ)
  | restart

section Publishing
variable {σ : Type} (api : PageService σ)

/-- The page is edited in place, or created. -/
def putPage (state : PageState σ) (key : PageKey) (path : Option String) (content : List Json) :
    Option (PageState σ × String) :=
  match path with
  | some path => (api.edit state.service path content).map fun service =>
      (⟨service, state.owner⟩, path)
  | none =>
    let made := api.create state.service content
    some (⟨made.1, Function.update state.owner made.2 (some key)⟩, made.2)

def requestPage (state : PageState σ) (key : PageKey) (path : Option String)
    (content : List Json) : PageFate → PageState σ × Option String
  | .lost => (state, none)
  | .answered =>
    match putPage api state key path content with
    | none => (state, none)
    | some (state', path) => (state', some path)
  | .applied =>
    match putPage api state key path content with
    | none => (state, none)
    | some (state', _) => (state', none)

/-- An account is created for a publication that has no token. -/
def PageWorld.account (w : PageWorld σ) (slot : Nat) (p : Publication) (save : SaveFate) :
    PageFate → PageWorld σ × Option PageOutcome
  | .answered =>
    let cache := { p.cache with token := true }
    ({ w with
      file := saveCache w.file cache save
      running := Function.update w.running slot (some { p with cache }) }, none)
  | _ => ({ w with running := Function.update w.running slot none },
      some (.failed (p.cache.url p.doc)))

variable (digest : List Char → String)

/-- What the publication knows once a page is at a path. -/
def Publication.cacheAt (p : Publication) (number : Nat) (path : String) : PageCache :=
  { p.cache with paths := dictSet p.cache.paths (⟨p.doc, number⟩, path) }

/-- What is stored once the first page is at a path. -/
def Publication.doneCache (p : Publication) (path : String) : PageCache :=
  { p.cacheAt 0 path with
    urls := dictSet p.cache.urls (p.doc, api.url path)
    hashes := dictSet p.cache.hashes (p.doc, digest p.text) }

/-- A page is asked for. -/
def PageWorld.page (w : PageWorld σ) (slot : Nat) (p : Publication) (chunk : List Json)
    (rest : List (List Json)) (fate : PageFate) : PageWorld σ × Option PageOutcome :=
  let key : PageKey := ⟨p.doc, rest.length⟩
  let made := requestPage api w.state key (p.cache.path key)
    (pageContent p.doc chunk p.nextUrl) fate
  match made.2 with
  | none => ({ w with state := made.1, running := Function.update w.running slot none },
      some (.failed (p.cache.url p.doc)))
  | some path =>
    let waiting := { p with placed := some path }
    ({ w with state := made.1, running := Function.update w.running slot (some waiting) }, none)

/-- The publication after a page is answered: it goes on with the one before it, or it ends. -/
def PageWorld.answered (w : PageWorld σ) (slot : Nat) (p : Publication) (rest : List (List Json))
    (path : String) (save : SaveFate) : PageWorld σ × Option PageOutcome :=
  match rest with
  | [] =>
    ({ w with
      file := saveCache w.file (p.doneCache api digest path) save
      running := Function.update w.running slot none }, some (.finished (api.url path)))
  | _ :: _ =>
    let later : Publication :=
      ⟨p.doc, p.text, p.cacheAt rest.length path, rest, some (api.url path), none⟩
    ({ w with running := Function.update w.running slot (some later) }, none)

def PageWorld.step (w : PageWorld σ) : PageEvent σ → PageWorld σ × Option PageOutcome
  | .getPageUrl slot doc text =>
    match w.running slot with
    | some _ => (w, none)
    | none =>
      if (w.file.url doc).isSome ∧ w.file.hashes.lookup doc = some (digest text) then
        (w, some (.stored (w.file.url doc)))
      else
        let begun := ⟨doc, text, w.file, (chunkNodes (toNodes text)).reverse, none, none⟩
        ({ w with running := Function.update w.running slot (some begun) }, none)
  | .request slot fate save =>
    match w.running slot with
    | none => (w, none)
    | some p =>
      if p.cache.token = false then w.account slot p save fate
      else
        match p.left, p.placed with
        | chunk :: rest, none => w.page api slot p chunk rest fate
        | _, _ => (w, none)
  | .answer slot save =>
    match w.running slot with
    | none => (w, none)
    | some p =>
      match p.left, p.placed with
      | _ :: rest, some path => w.answered api digest slot p rest path save
      | _, _ => (w, none)
  | .others service => ({ w with state := { w.state with service := service } }, none)
  | .restart => ({ w with running := fun _ => none }, none)

def PageWorld.after (w : PageWorld σ) (event : PageEvent σ) : PageWorld σ :=
  (w.step api digest event).1

def PageWorld.start (service : σ) : PageWorld σ := ⟨⟨service, fun _ => none⟩, .empty, fun _ => none⟩

/-- What other people do leaves the pages of the bot alone. -/
def PageWorld.Untouched (w : PageWorld σ) (service : σ) : Prop :=
  ∀ path key, w.state.owner path = some key →
    api.shown service (api.url path) = api.shown w.state.service (api.url path)

/-- The pages of the bot are left alone, and no publication of the document is begun while another
one of it runs. -/
def PageWorld.Apart (doc : PublishedDocument) (w : PageWorld σ) : PageEvent σ → Prop
  | .getPageUrl _ doc' _ => doc' = doc → ∀ slot p, w.running slot = some p → p.doc ≠ doc
  | .others service => w.Untouched api service
  | .request .. | .answer .. | .restart => True

/-- The document is not published anew, no file is left empty, and the pages are left alone. -/
def PageWorld.Spares (doc : PublishedDocument) (w : PageWorld σ) : PageEvent σ → Prop
  | .getPageUrl _ doc' text => doc' = doc → w.file.hashes.lookup doc = some (digest text)
  | .request _ _ save | .answer _ save => save ≠ .emptied
  | .others service => w.Untouched api service
  | .restart => True

/-! ## What a reader finds -/

/-- A reader who begins at a URL and follows the links finds the nodes. -/
inductive Reads (service : σ) : String → List Json → Prop
  | last (hpage : api.shown service url = some content)
      (hlast : ∀ next label, content.getLast? ≠ some (nextNode next label)) :
      Reads service url content
  | next (hpage : api.shown service url = some (content ++ [nextNode next label]))
      (h : Reads service next more) : Reads service url (content ++ more)

/-- Whoever opens the URL and follows the links finds the document, up to blanks and marks. -/
structure ShowsDocument (service : σ) (url : String) (text : List Char) : Prop where
  reads : Reads api service url (toNodes text)
  characters : kept (shownTexts (toNodes text)) = kept text

/-- The pages from a number on are there, and each has the link to the one after it. -/
def Chain (state : PageState σ) (doc : PublishedDocument) :
    Nat → List (List Json) → Option String → Prop
  | _, [], url => url = none
  | i, chunk :: rest, url => ∃ path nextUrl, state.owner path = some ⟨doc, i⟩ ∧
      url = some (api.url path) ∧
      api.shown state.service (api.url path) = some (pageContent doc chunk nextUrl) ∧
      Chain state doc (i + 1) rest nextUrl

end Publishing

/-- No node is a link to a next page. -/
def Unlinked (nodes : List Json) : Prop := ∀ node ∈ nodes, ∀ url label, node ≠ nextNode url label

theorem boldChildren_shape (plain line : List Char) :
    ∀ node ∈ boldChildren plain line, (∃ text, node = textNode text) ∨
      ∃ text, node = tagNode "strong" [textNode text] := by
  have hplain : ∀ text, ∀ node ∈ plainChild text, ∃ text, node = textNode text := by
    intro text node hnode
    rw [plainChild] at hnode
    split at hnode
    · cases hnode
    · exact ⟨text, List.mem_singleton.1 hnode⟩
  fun_induction boldChildren plain line with
  | case1 plain => exact fun node hnode => .inl (hplain plain node hnode)
  | case2 plain c text cut hcut ih =>
    intro node hnode
    rcases List.mem_append.1 hnode with hnode | hnode
    · exact .inl (hplain plain node hnode)
    · rcases List.mem_cons.1 hnode with rfl | hnode
      · exact .inr ⟨_, rfl⟩
      · exact ih node hnode
  | case3 plain c text hcut ih => exact ih

theorem inlineChildren_unlinked (tag : String) (line : List Char) (url label : String) :
    tagNode tag (inlineChildren line) ≠ nextNode url label := by
  intro heq
  have hchildren : inlineChildren line = [.obj [("tag", .str "a"),
      ("attrs", .obj [("href", .str url)]), ("children", .arr [.str label])]] := by
    simp only [tagNode, nextNode, Json.obj.injEq, List.cons.injEq, Prod.mk.injEq, true_and,
      Json.arr.injEq, and_true] at heq
    exact heq.2
  have hshape : ∀ node ∈ inlineChildren line, (∃ text, node = textNode text) ∨
      ∃ text, node = tagNode "strong" [textNode text] := by
    rw [inlineChildren]
    split
    · exact fun node hnode => .inl ⟨_, List.mem_singleton.1 hnode⟩
    · exact boldChildren_shape [] _
  rw [hchildren] at hshape
  rcases hshape _ List.mem_cons_self with ⟨text, hnode⟩ | ⟨text, hnode⟩
  · cases hnode
  · simp [tagNode] at hnode

theorem toNodes_unlinked (text : List Char) : Unlinked (toNodes text) := by
  intro node hnode url label
  obtain ⟨line, -, hline⟩ := List.mem_filterMap.1 hnode
  split at hline
  · cases hline
  · cases hline
    rw [lineNode]
    split
    · simp [nextNode, tagNode]
    · split
      · exact inlineChildren_unlinked _ _ url label
      · split
        · simp [nextNode, tagNode]
        · split
          · exact inlineChildren_unlinked _ _ url label
          · split
            · exact inlineChildren_unlinked _ _ url label
            · exact inlineChildren_unlinked _ _ url label

/-! ## Requests -/

section Requests
variable {σ : Type} {api : PageService σ} {state state' : PageState σ} {key : PageKey}

/-- Each path that was created shows something. -/
def PageState.Used (api : PageService σ) (state : PageState σ) : Prop :=
  ∀ path k, state.owner path = some k → api.shown state.service (api.url path) ≠ none

/-- Paths stay with their pages, and what the paths of other pages show. -/
structure PagesKept (api : PageService σ) (key : PageKey) (state state' : PageState σ) : Prop where
  owner : ∀ path k, state.owner path = some k → state'.owner path = some k
  shown : ∀ path k, state.owner path = some k → k ≠ key →
    api.shown state'.service (api.url path) = api.shown state.service (api.url path)

/-- A request for a page. -/
structure PageRequested (api : PageService σ) (key : PageKey) (content : List Json)
    (state : PageState σ) (made : PageState σ × Option String) : Prop where
  kept : PagesKept api key state made.1
  used : made.1.Used api
  owner : ∀ path, made.2 = some path → made.1.owner path = some key
  shown : ∀ path, made.2 = some path →
    api.shown made.1.service (api.url path) = some content

theorem pagesKept_refl (key : PageKey) (state : PageState σ) : PagesKept api key state state :=
  ⟨fun _ _ h => h, fun _ _ _ _ => rfl⟩

theorem putPage_edit {path : String} {content : List Json} (hused : state.Used api)
    (hpath : state.owner path = some key)
    (hedit : api.edit state.service path content = some service) :
    PageRequested api key content state (⟨service, state.owner⟩, some path) := by
  have hother : ∀ other, other ≠ path →
      api.shown service (api.url other) = api.shown state.service (api.url other) :=
    fun other hne => api.edit_others _ _ _ _ _ hedit fun heq => hne (api.url_injective heq)
  refine
    { kept := ⟨fun _ _ h => h, fun other k hk hne => hother other ?_⟩
      used := fun other k hk => ?_
      owner := fun other hother => by cases hother; exact hpath
      shown := fun other hother => by cases hother; exact api.edit_shown _ _ _ _ hedit }
  · rintro rfl
    exact hne (Option.some.inj (hk.symm.trans hpath))
  · by_cases heq : other = path
    · rw [heq, api.edit_shown _ _ _ _ hedit]
      exact Option.some_ne_none _
    · rw [hother other heq]
      exact hused other k hk

theorem putPage_create (hused : state.Used api) (key : PageKey) (content : List Json) :
    PageRequested api key content state
      (⟨(api.create state.service content).1,
        Function.update state.owner (api.create state.service content).2 (some key)⟩,
        some (api.create state.service content).2) := by
  have hnew : ∀ path k, state.owner path = some k →
      path ≠ (api.create state.service content).2 := by
    rintro path k hk rfl
    exact hused _ k hk (api.create_new _ _)
  have hother : ∀ path, path ≠ (api.create state.service content).2 →
      api.shown (api.create state.service content).1 (api.url path) =
        api.shown state.service (api.url path) :=
    fun path hne => api.create_others _ _ _ fun heq => hne (api.url_injective heq)
  refine
    { kept := ⟨fun path k hk => ?_, fun path k hk _ => hother path (hnew path k hk)⟩
      used := fun path k hk => ?_
      owner := fun path hpath => by cases hpath; exact Function.update_self ..
      shown := fun path hpath => by cases hpath; exact api.create_shown _ _ }
  · dsimp only
    rw [Function.update_of_ne (hnew path k hk), hk]
  · by_cases heq : path = (api.create state.service content).2
    · rw [heq, api.create_shown]
      exact Option.some_ne_none _
    · dsimp only at hk
      rw [Function.update_of_ne heq] at hk
      rw [hother path heq]
      exact hused path k hk

theorem PageRequested.unanswered {content : List Json} {made : PageState σ × Option String}
    (h : PageRequested api key content state made) :
    PageRequested api key content state (made.1, none) :=
  ⟨h.kept, h.used, fun _ hnone => (by cases hnone), fun _ hnone => (by cases hnone)⟩

theorem requestPage_spec {path : Option String} (hused : state.Used api)
    (hpath : ∀ p, path = some p → state.owner p = some key) (content : List Json)
    (fate : PageFate) :
    PageRequested api key content state (requestPage api state key path content fate) := by
  have hnothing : PageRequested api key content state (state, none) :=
    ⟨pagesKept_refl key state, hused, fun _ hnone => (by cases hnone),
      fun _ hnone => (by cases hnone)⟩
  have hput : ∀ made, putPage api state key path content = some made →
      PageRequested api key content state (made.1, some made.2) := by
    intro made hmade
    cases path with
    | none =>
      cases hmade
      exact putPage_create hused key content
    | some p =>
      obtain ⟨service, hedit, rfl⟩ := Option.map_eq_some_iff.1 hmade
      exact putPage_edit hused (hpath p rfl) hedit
  cases fate with
  | lost => exact hnothing
  | answered =>
    rw [requestPage]
    cases hmade : putPage api state key path content with
    | none => exact hnothing
    | some made => exact hput made hmade
  | applied =>
    rw [requestPage]
    cases hmade : putPage api state key path content with
    | none => exact hnothing
    | some made => exact (hput made hmade).unanswered

/-! ## Chains of pages -/

theorem Chain.kept (h : Chain api state doc i chunks url) (hkept : PagesKept api key state state')
    (hkey : ∀ j, i ≤ j → (⟨doc, j⟩ : PageKey) ≠ key) : Chain api state' doc i chunks url := by
  induction chunks generalizing i url with
  | nil => exact h
  | cons chunk rest ih =>
    obtain ⟨path, nextUrl, howner, hurl, hpage, hrest⟩ := h
    refine ⟨path, nextUrl, hkept.owner _ _ howner, hurl, ?_, ?_⟩
    · rw [hkept.shown path _ howner (hkey i (Nat.le_refl i)), hpage]
    · exact ih hrest fun j hj => hkey j (Nat.le_of_succ_le hj)

theorem Chain.reads (h : Chain api state doc i chunks (some url))
    (hplain : Unlinked chunks.flatten) : Reads api state.service url chunks.flatten := by
  induction chunks generalizing i url with
  | nil => cases h
  | cons chunk rest ih =>
    obtain ⟨path, nextUrl, -, hurl, hpage, hrest⟩ := h
    cases hurl
    rw [List.flatten_cons] at hplain ⊢
    cases nextUrl with
    | none =>
      have hnil : rest = [] := by
        cases rest with
        | nil => rfl
        | cons chunk rest =>
          obtain ⟨_, _, -, hnone, -⟩ := hrest
          cases hnone
      rw [hnil, List.flatten_nil, List.append_nil]
      rw [pageContent, Option.map_none, Option.toList_none, List.append_nil] at hpage
      refine .last hpage fun url label hlast => ?_
      exact hplain _ (List.mem_append_left _ (List.mem_of_getLast? hlast)) url label rfl
    | some next =>
      rw [pageContent, Option.map_some, Option.toList_some] at hpage
      exact .next hpage (ih hrest fun node hnode => hplain node (List.mem_append_right _ hnode))

theorem Chain.showsDocument
    (h : Chain api state doc 0 (chunkNodes (toNodes text)) (some url)) :
    ShowsDocument api state.service url text where
  reads := by
    have hflatten : (chunkNodes (toNodes text)).flatten = toNodes text := by
      rw [chunkNodes_eq, pagesFrom_flatten, List.nil_append]
    have hreads := h.reads (by rw [hflatten]; exact toNodes_unlinked text)
    rwa [hflatten] at hreads
  characters := kept_toNodes text

end Requests

/-! ## What holds in every state -/

section Steps
variable {σ : Type} {api : PageService σ} {digest : List Char → String} {w : PageWorld σ}

/-- What is known of a page is a path that was created for it. -/
def PageCache.Owned (cache : PageCache) (owner : String → Option PageKey) : Prop :=
  ∀ key path, cache.path key = some path → owner path = some key

structure Publication.Owned (p : Publication) (owner : String → Option PageKey) : Prop where
  cache : p.cache.Owned owner
  placed : ∀ path, p.placed = some path → owner path = some ⟨p.doc, p.left.tail.length⟩

structure PageWorld.Sound (api : PageService σ) (w : PageWorld σ) : Prop where
  used : w.state.Used api
  file : w.file.Owned w.state.owner
  running : ∀ slot p, w.running slot = some p → p.Owned w.state.owner

/-- The pages behind those that are left are there, and so is the one that is waited for. -/
def Publication.Built (api : PageService σ) (state : PageState σ) (p : Publication) : Prop :=
  ∃ done, p.left.reverse ++ done = chunkNodes (toNodes p.text) ∧
    Chain api state p.doc p.left.length done p.nextUrl ∧
    ∀ path, p.placed = some path → ∀ chunk rest, p.left = chunk :: rest →
      state.owner path = some ⟨p.doc, rest.length⟩ ∧
      api.shown state.service (api.url path) = some (pageContent p.doc chunk p.nextUrl)

/-- One publication of the document runs at most, and its last pages are there. -/
structure PageWorld.Building (api : PageService σ) (doc : PublishedDocument) (w : PageWorld σ) :
    Prop where
  sole : ∀ slot slot' p p', w.running slot = some p → w.running slot' = some p' → p.doc = doc →
    p'.doc = doc → slot = slot'
  built : ∀ slot p, w.running slot = some p → p.doc = doc → p.Built api w.state

/-- All that run have loaded this URL of the document. -/
def PageWorld.Known (doc : PublishedDocument) (url : String) (w : PageWorld σ) : Prop :=
  ∀ slot p, w.running slot = some p → p.cache.url doc = some url

/-- The document is shown at the URL that is stored, and no publication that runs changes this. -/
structure PageWorld.Stored (api : PageService σ) (doc : PublishedDocument) (text : List Char)
    (url : String) (w : PageWorld σ) : Prop where
  chain : Chain api w.state doc 0 (chunkNodes (toNodes text)) (some url)
  file : w.file.url doc = some url
  known : w.Known doc url
  running : ∀ slot p, w.running slot = some p → p.doc ≠ doc

theorem forall_running {P : Nat → Publication → Prop} {running : Nat → Option Publication}
    (h : ∀ slot p, running slot = some p → P slot p) {slot : Nat} {new : Option Publication}
    (hnew : ∀ p, new = some p → P slot p) :
    ∀ slot' p, Function.update running slot new slot' = some p → P slot' p := by
  intro slot' p hp
  by_cases heq : slot' = slot
  · rw [heq, Function.update_self] at hp
    exact heq ▸ hnew p hp
  · rw [Function.update_of_ne heq] at hp
    exact h slot' p hp

theorem PageCache.Owned.kept {cache : PageCache} {state state' : PageState σ}
    (h : cache.Owned state.owner) (hkept : PagesKept api key state state') :
    cache.Owned state'.owner :=
  fun k path hpath => hkept.owner path k (h k path hpath)

theorem Publication.Owned.kept {p : Publication} {state state' : PageState σ}
    (h : p.Owned state.owner) (hkept : PagesKept api key state state') : p.Owned state'.owner :=
  ⟨h.cache.kept hkept, fun path hpath => hkept.owner path _ (h.placed path hpath)⟩

theorem Publication.owned_cacheAt {p : Publication} {owner : String → Option PageKey}
    (h : p.cache.Owned owner) {number : Nat} {path : String}
    (hpath : owner path = some ⟨p.doc, number⟩) : (p.cacheAt number path).Owned owner := by
  intro k other hother
  rw [PageCache.path, Publication.cacheAt, lookup_dictSet] at hother
  split at hother
  · rename_i heq
    cases hother
    rw [heq]
    exact hpath
  · exact h k other hother

theorem saveCache_cases {P : PageCache → Prop} {file cache : PageCache} (save : SaveFate)
    (hfile : P file) (hcache : P cache) (hempty : save = .emptied → P .empty) :
    P (saveCache file cache save) := by
  cases save with
  | stored => exact hcache
  | kept => exact hfile
  | emptied => exact hempty rfl

theorem owned_empty (owner : String → Option PageKey) : PageCache.empty.Owned owner := by
  intro key path h
  cases h

/-! ## Steps -/

/-- What a step may do. -/
inductive PageStep (api : PageService σ) (digest : List Char → String) (w : PageWorld σ) :
    PageEvent σ → PageWorld σ → Prop
  | same : PageStep api digest w event w
  | begun (hnew : w.file.hashes.lookup doc ≠ some (digest text) ∨ w.file.url doc = none) :
      PageStep api digest w (.getPageUrl slot doc text)
        { w with
          running := Function.update w.running slot
            (some ⟨doc, text, w.file, (chunkNodes (toNodes text)).reverse, none, none⟩) }
  | account (hp : w.running slot = some p) : PageStep api digest w (.request slot fate save)
      { w with
        file := saveCache w.file { p.cache with token := true } save
        running := Function.update w.running slot
          (some { p with cache := { p.cache with token := true } }) }
  | failed (hp : w.running slot = some p) (hkey : key.doc = p.doc)
      (hkept : PagesKept api key w.state state) (hused : state.Used api) :
      PageStep api digest w (.request slot fate save)
        { w with state := state, running := Function.update w.running slot none }
  | requested (hp : w.running slot = some p) (hleft : p.left = chunk :: rest)
      (hmade : PageRequested api ⟨p.doc, rest.length⟩ (pageContent p.doc chunk p.nextUrl) w.state
        (state, some path)) :
      PageStep api digest w (.request slot fate save)
        { w with
          state := state
          running := Function.update w.running slot (some { p with placed := some path }) }
  | answered (hp : w.running slot = some p) (hleft : p.left = chunk :: next :: more)
      (hplaced : p.placed = some path) : PageStep api digest w (.answer slot save)
        { w with
          running := Function.update w.running slot
            (some ⟨p.doc, p.text, p.cacheAt (next :: more).length path, next :: more,
              some (api.url path), none⟩) }
  | finished (hp : w.running slot = some p) (hleft : p.left = [chunk])
      (hplaced : p.placed = some path) : PageStep api digest w (.answer slot save)
        { w with
          file := saveCache w.file (p.doneCache api digest path) save
          running := Function.update w.running slot none }
  | others : PageStep api digest w (.others service)
      { w with state := { w.state with service := service } }
  | restart : PageStep api digest w .restart { w with running := fun _ => none }

theorem PageWorld.Sound.pageStep (h : w.Sound api) (event : PageEvent σ) :
    PageStep api digest w event (w.after api digest event) := by
  rw [PageWorld.after]
  cases event with
  | getPageUrl slot doc text =>
    rw [PageWorld.step]
    cases w.running slot with
    | some p => exact .same
    | none =>
      dsimp only
      split
      · exact .same
      · rename_i hnew
        refine .begun ?_
        by_cases hurl : w.file.url doc = none
        · exact .inr hurl
        · exact .inl fun hhash => hnew ⟨Option.isSome_iff_ne_none.2 hurl, hhash⟩
  | request slot fate save =>
    rw [PageWorld.step]
    cases hp : w.running slot with
    | none => exact .same
    | some p =>
      dsimp only
      split
      · have hsame : PagesKept api ⟨p.doc, 0⟩ w.state w.state := pagesKept_refl _ _
        cases fate with
        | answered => exact .account hp
        | lost => exact .failed hp rfl hsame h.used
        | applied => exact .failed hp rfl hsame h.used
      · split
        · rename_i chunk rest hleft _
          have hmade := requestPage_spec h.used ((h.running slot p hp).cache ⟨p.doc, rest.length⟩)
            (pageContent p.doc chunk p.nextUrl) fate
          rw [PageWorld.page]
          generalize requestPage api w.state _ _ _ fate = made at hmade
          obtain ⟨state, answer⟩ := made
          cases answer with
          | none => exact .failed hp rfl hmade.kept hmade.used
          | some path => exact .requested hp hleft hmade
        · exact .same
  | answer slot save =>
    rw [PageWorld.step]
    cases hp : w.running slot with
    | none => exact .same
    | some p =>
      dsimp only
      split
      · rename_i rest path hleft hplaced
        cases rest with
        | nil => exact .finished hp hleft hplaced
        | cons next more => exact .answered hp hleft hplaced
      · exact .same
  | others service => exact .others
  | restart => exact .restart

theorem Chain.others {service : σ} (h : Chain api w.state doc i chunks url)
    (hsame : w.Untouched api service) :
    Chain api { w.state with service := service } doc i chunks url := by
  induction chunks generalizing i url with
  | nil => exact h
  | cons chunk rest ih =>
    obtain ⟨path, nextUrl, howner, hurl, hpage, hrest⟩ := h
    exact ⟨path, nextUrl, howner, hurl, (hsame path _ howner).trans hpage, ih hrest⟩

/-- The paths keep their owners in every step. -/
theorem PageWorld.Sound.after (h : w.Sound api) (event : PageEvent σ)
    (hothers : ∀ service, event = .others service → w.Untouched api service) :
    (w.after api digest event).Sound api := by
  have hstep : PageStep api digest w event (w.after api digest event) := h.pageStep event
  generalize w.after api digest event = w' at hstep
  cases hstep with
  | same => exact h
  | begun hnew =>
    exact { h with
      running := forall_running h.running fun p hp => by
        cases hp
        exact ⟨h.file, fun path hnone => by cases hnone⟩ }
  | @account slot p fate save hp =>
    have hcache := h.running _ _ hp
    exact
      { used := h.used
        file := saveCache_cases (P := fun cache => cache.Owned _) save h.file hcache.cache
          fun _ => owned_empty _
        running := forall_running h.running fun p hp => by
          cases hp
          exact ⟨hcache.cache, hcache.placed⟩ }
  | failed hp hkey hkept hused =>
    exact
      { used := hused
        file := h.file.kept hkept
        running := forall_running (fun slot p hp => (h.running slot p hp).kept hkept)
          fun p hp => by cases hp }
  | requested hp hleft hmade =>
    have hcache := (h.running _ _ hp).kept hmade.kept
    refine
      { used := hmade.used
        file := h.file.kept hmade.kept
        running := forall_running (fun slot p hp => (h.running slot p hp).kept hmade.kept)
          fun p hp => ?_ }
    cases hp
    refine ⟨hcache.cache, fun path hpath => ?_⟩
    cases hpath
    dsimp only
    rw [hleft]
    exact hmade.owner _ rfl
  | answered hp hleft hplaced =>
    have hcache := h.running _ _ hp
    have hpath := hcache.placed _ hplaced
    rw [hleft] at hpath
    exact { h with
      running := forall_running h.running fun p hp => by
        cases hp
        exact ⟨Publication.owned_cacheAt hcache.cache hpath, fun path hnone => by cases hnone⟩ }
  | @finished slot p chunk path save hp hleft hplaced =>
    have hcache := h.running _ _ hp
    have hpath := hcache.placed _ hplaced
    rw [hleft] at hpath
    exact
      { used := h.used
        file := saveCache_cases (P := fun cache => cache.Owned _) save h.file
          (Publication.owned_cacheAt hcache.cache hpath) fun _ => owned_empty _
        running := forall_running h.running fun p hp => by cases hp }
  | others =>
    refine { h with used := fun path key hkey => ?_ }
    dsimp only
    rw [hothers _ rfl path key hkey]
    exact h.used path key hkey
  | restart => exact { h with running := fun slot p hp => by cases hp }

/-- The page that is waited for stands in front of those that are there. -/
theorem Publication.Built.placed_chain {p : Publication} (h : p.Built api state)
    (hleft : p.left = chunk :: rest) (hplaced : p.placed = some path) :
    ∃ done, rest.reverse ++ done = chunkNodes (toNodes p.text) ∧
      Chain api state p.doc rest.length done (some (api.url path)) := by
  obtain ⟨done, hall, hchain, hpage⟩ := h
  obtain ⟨howner, hshown⟩ := hpage path hplaced chunk rest hleft
  rw [hleft] at hall hchain
  refine ⟨chunk :: done, ?_, path, p.nextUrl, howner, rfl, hshown, hchain⟩
  rw [← hall, List.reverse_cons, List.append_assoc]
  rfl

/-- A publication of another document leaves the pages alone. -/
theorem Publication.Built.kept {p : Publication} (h : p.Built api state)
    (hkept : PagesKept api key state state') (hkey : key.doc ≠ p.doc) : p.Built api state' := by
  have hother : ∀ number, (⟨p.doc, number⟩ : PageKey) ≠ key :=
    fun number heq => hkey (heq ▸ rfl)
  obtain ⟨done, hall, hchain, hpage⟩ := h
  refine ⟨done, hall, hchain.kept hkept fun j _ => hother j,
    fun path hplaced chunk rest hleft => ?_⟩
  obtain ⟨howner, hshown⟩ := hpage path hplaced chunk rest hleft
  exact ⟨hkept.owner path _ howner, (hkept.shown path _ howner (hother _)).trans hshown⟩

/-- The page that is asked for is in front of the others, which stay. -/
theorem Publication.Built.requested {p : Publication} (h : p.Built api state)
    (hleft : p.left = chunk :: rest)
    (hmade : PageRequested api ⟨p.doc, rest.length⟩ (pageContent p.doc chunk p.nextUrl) state
      (state', some path)) :
    Publication.Built api state' { p with placed := some path } := by
  obtain ⟨done, hall, hchain, -⟩ := h
  refine ⟨done, hall, hchain.kept hmade.kept fun j hj heq => ?_, fun other hplaced c r hcons => ?_⟩
  · have hnumber : j = rest.length := congrArg PageKey.number heq
    rw [hleft, List.length_cons] at hj
    omega
  · cases hplaced
    dsimp only at hcons
    rw [hleft] at hcons
    cases hcons
    exact ⟨hmade.owner _ rfl, hmade.shown _ rfl⟩

theorem PageWorld.Building.after (h : w.Building api doc) (hsound : w.Sound api)
    (event : PageEvent σ) (hapart : w.Apart api doc event) :
    (w.after api digest event).Building api doc := by
  have hstep : PageStep api digest w event (w.after api digest event) := hsound.pageStep event
  generalize w.after api digest event = w' at hstep
  -- a publication that goes on does so in its slot
  have hsole : ∀ {slot p} {new : Option Publication}, w.running slot = some p →
      (∀ p', new = some p' → p'.doc = p.doc) →
      ∀ s s' q q', Function.update w.running slot new s = some q →
        Function.update w.running slot new s' = some q' → q.doc = doc → q'.doc = doc → s = s' := by
    intro slot p new hp hnew s s' q q' hq hq' hdoc hdoc'
    have hold : ∀ s q, Function.update w.running slot new s = some q →
        ∃ q', w.running s = some q' ∧ q'.doc = q.doc := by
      refine forall_running (fun s q hq => ⟨q, hq, rfl⟩) fun p' hp' => ⟨p, hp, (hnew p' hp').symm⟩
    obtain ⟨old, hold₁, hdoc₁⟩ := hold s q hq
    obtain ⟨old', hold₂, hdoc₂⟩ := hold s' q' hq'
    exact h.sole s s' old old' hold₁ hold₂ (hdoc₁.trans hdoc) (hdoc₂.trans hdoc')
  -- the other publications of the document are none
  have hothers : ∀ {slot p key state}, w.running slot = some p → key.doc = p.doc →
      PagesKept api key w.state state → ∀ s q, s ≠ slot → w.running s = some q → q.doc = doc →
      q.Built api state := by
    intro slot p key state hp hkey hkept s q hne hq hdoc
    refine (h.built s q hq hdoc).kept hkept fun heq => ?_
    exact hne (h.sole s slot q p hq hp hdoc (hkey.symm.trans (heq.trans hdoc)))
  cases hstep with
  | same => exact h
  | @begun doc' text slot hnew =>
    refine ⟨?_, forall_running h.built fun p hp hdoc => ?_⟩
    · intro s s' q q' hq hq' hdoc hdoc'
      have hnone : ∀ s q, Function.update w.running slot (some ⟨doc', text, w.file,
          (chunkNodes (toNodes text)).reverse, none, none⟩) s = some q → q.doc = doc →
          doc' = doc → s = slot := by
        intro s q hq hdoc heq
        by_contra hne
        rw [Function.update_of_ne hne] at hq
        exact hapart heq s q hq hdoc
      by_cases heq : doc' = doc
      · rw [hnone s q hq hdoc heq, hnone s' q' hq' hdoc' heq]
      · have hold : ∀ s q, Function.update w.running slot (some ⟨doc', text, w.file,
            (chunkNodes (toNodes text)).reverse, none, none⟩) s = some q → q.doc = doc →
            w.running s = some q := by
          intro s q hq hdoc
          by_cases hslot : s = slot
          · rw [hslot, Function.update_self] at hq
            cases hq
            exact absurd hdoc heq
          · rwa [Function.update_of_ne hslot] at hq
        exact h.sole s s' q q' (hold s q hq hdoc) (hold s' q' hq' hdoc') hdoc hdoc'
    · cases hp
      refine ⟨[], ?_, rfl, fun path hnone => by cases hnone⟩
      rw [List.reverse_reverse, List.append_nil]
  | account hp =>
    refine ⟨hsole hp fun p' hp' => (by cases hp'; rfl), forall_running h.built fun p hp' hdoc => ?_⟩
    cases hp'
    have hbuilt := h.built _ _ hp hdoc
    exact hbuilt
  | @failed slot p key state fate save hp hkey hkept hused =>
    refine ⟨hsole hp fun p' hp' => (by cases hp'), fun s q hq hdoc => ?_⟩
    by_cases hslot : s = slot
    · dsimp only at hq
      rw [hslot, Function.update_self] at hq
      cases hq
    · dsimp only at hq
      rw [Function.update_of_ne hslot] at hq
      exact hothers hp hkey hkept s q hslot hq hdoc
  | @requested slot p chunk rest state path fate save hp hleft hmade =>
    refine ⟨hsole hp fun p' hp' => (by cases hp'; rfl), fun s q hq hdoc => ?_⟩
    by_cases hslot : s = slot
    · dsimp only at hq
      rw [hslot, Function.update_self] at hq
      cases hq
      exact (h.built _ _ hp hdoc).requested hleft hmade
    · dsimp only at hq
      rw [Function.update_of_ne hslot] at hq
      exact hothers hp rfl hmade.kept s q hslot hq hdoc
  | answered hp hleft hplaced =>
    refine ⟨hsole hp fun p' hp' => (by cases hp'; rfl), forall_running h.built fun p hp' hdoc => ?_⟩
    cases hp'
    obtain ⟨done, hall, hchain⟩ := (h.built _ _ hp hdoc).placed_chain hleft hplaced
    exact ⟨done, hall, hchain, fun path hnone => by cases hnone⟩
  | finished hp hleft hplaced =>
    exact ⟨hsole hp fun p' hp' => (by cases hp'),
      forall_running h.built fun p hp' => (by cases hp')⟩
  | others =>
    refine ⟨h.sole, fun s q hq hdoc => ?_⟩
    obtain ⟨done, hall, hchain, hpage⟩ := h.built s q hq hdoc
    refine ⟨done, hall, hchain.others hapart, fun path hplaced chunk rest hleft => ?_⟩
    obtain ⟨howner, hshown⟩ := hpage path hplaced chunk rest hleft
    exact ⟨howner, (hapart path _ howner).trans hshown⟩
  | restart => exact ⟨fun s s' q q' hq => (by cases hq), fun s q hq => (by cases hq)⟩

/-! ## Published documents -/

theorem PageWorld.Stored.after (h : w.Stored api doc text url) (hsound : w.Sound api)
    (event : PageEvent σ) (hspares : w.Spares api digest doc event) :
    (w.after api digest event).Stored api doc text url := by
  have hstep : PageStep api digest w event (w.after api digest event) := hsound.pageStep event
  generalize w.after api digest event = w' at hstep
  -- the pages of other documents are others
  have hkept : ∀ {slot p key state}, w.running slot = some p → key.doc = p.doc →
      PagesKept api key w.state state →
      Chain api state doc 0 (chunkNodes (toNodes text)) (some url) :=
    fun hp hkey hkept => h.chain.kept hkept fun j _ heq =>
      h.running _ _ hp (hkey.symm.trans (heq ▸ rfl))
  cases hstep with
  | same => exact h
  | @begun doc' text' slot hnew =>
    have hdoc : doc' ≠ doc := by
      rintro rfl
      rcases hnew with hne | hnone
      · exact hne (hspares rfl)
      · rw [h.file] at hnone
        cases hnone
    exact { h with
      known := forall_running h.known fun p hp => by cases hp; exact h.file
      running := forall_running h.running fun p hp => by cases hp; exact hdoc }
  | account hp =>
    have hknown := h.known _ _ hp
    have hrunning := h.running _ _ hp
    exact
      { chain := h.chain
        file := saveCache_cases (P := fun cache => cache.url doc = some url) _ h.file hknown
          fun hempty => absurd hempty hspares
        known := forall_running h.known fun p hp => by cases hp; exact hknown
        running := forall_running h.running fun p hp' => by cases hp'; exact hrunning }
  | failed hp hkey hpages hused =>
    exact
      { chain := hkept hp hkey hpages
        file := h.file
        known := forall_running h.known fun p hp => by cases hp
        running := forall_running h.running fun p hp => by cases hp }
  | requested hp hleft hmade =>
    have hknown := h.known _ _ hp
    have hrunning := h.running _ _ hp
    exact
      { chain := hkept hp rfl hmade.kept
        file := h.file
        known := forall_running h.known fun p hp' => by cases hp'; exact hknown
        running := forall_running h.running fun p hp' => by cases hp'; exact hrunning }
  | answered hp hleft hplaced =>
    have hknown := h.known _ _ hp
    have hrunning := h.running _ _ hp
    exact { h with
      known := forall_running h.known fun p hp' => by cases hp'; exact hknown
      running := forall_running h.running fun p hp' => by cases hp'; exact hrunning }
  | @finished slot p chunk path save hp hleft hplaced =>
    have hdone : (p.doneCache api digest path).url doc = some url := by
      rw [PageCache.url, Publication.doneCache, lookup_dictSet,
        if_neg fun heq => h.running _ _ hp heq.symm]
      exact h.known _ _ hp
    exact
      { chain := h.chain
        file := saveCache_cases (P := fun cache => cache.url doc = some url) _ h.file hdone
          fun hempty => absurd hempty hspares
        known := forall_running h.known fun p hp => by cases hp
        running := forall_running h.running fun p hp => by cases hp }
  | others => exact { h with chain := h.chain.others hspares }
  | restart =>
    exact { h with known := fun s q hq => (by cases hq), running := fun s q hq => (by cases hq) }

theorem start_sound (service : σ) : (PageWorld.start service).Sound api where
  used := fun path key h => by cases h
  file := owned_empty _
  running := fun slot p h => by cases h

theorem start_building (service : σ) : (PageWorld.start service).Building api doc where
  sole := fun s s' q q' h => by cases h
  built := fun s q h => by cases h

theorem PageWorld.Apart.untouched {event : PageEvent σ} (h : w.Apart api doc event) :
    ∀ service, event = .others service → w.Untouched api service := by
  rintro service rfl
  exact h

theorem PageWorld.Spares.untouched {event : PageEvent σ} (h : w.Spares api digest doc event) :
    ∀ service, event = .others service → w.Untouched api service := by
  rintro service rfl
  exact h

/-- What a publication leaves that is at its end. -/
theorem PageWorld.Building.finished {p : Publication} (h : w.Building api doc)
    (hp : w.running slot = some p) (hdoc : p.doc = doc)
    (hend : (w.step api digest (.answer slot save)).2 = some (.finished url)) :
    Chain api w.state doc 0 (chunkNodes (toNodes p.text)) (some url) ∧
      ∃ path, url = api.url path ∧ w.after api digest (.answer slot save) =
        { w with
          file := saveCache w.file (p.doneCache api digest path) save
          running := Function.update w.running slot none } := by
  rw [PageWorld.after]
  rw [PageWorld.step, hp] at hend ⊢
  dsimp only at hend ⊢
  split at hend
  · rename_i chunk rest path hleft hplaced
    cases rest with
    | cons next more => cases hend
    | nil =>
      rw [PageWorld.answered] at hend ⊢
      cases hend
      obtain ⟨done, hall, hchain⟩ := (h.built slot p hp hdoc).placed_chain hleft hplaced
      rw [List.reverse_nil, List.nil_append] at hall
      rw [hall, hdoc] at hchain
      exact ⟨hchain, path, rfl, rfl⟩
  · cases hend

end Steps

/-! ## Listed pages -/

def pageUrl (path : String) : String := "https://telegra.ph/" ++ path

/-- A path that is in no URL of the list. -/
def newPath (pages : List (String × List Json)) : String :=
  String.ofList (List.replicate ((pages.map fun page => page.1.length).sum + 1) 'a')

theorem lookup_newPath (root : String) (pages : List (String × List Json)) :
    pages.lookup (root ++ newPath pages) = none := by
  cases h : pages.lookup (root ++ newPath pages) with
  | none => rfl
  | some content =>
    have hle := List.le_sum_of_mem
      (List.mem_map_of_mem (f := fun page : String × List Json => page.1.length) (mem_of_lookup h))
    rw [String.length_append, newPath, String.length_ofList, List.length_replicate] at hle
    omega

theorem append_injective (root : String) : Function.Injective fun path => root ++ path := by
  intro path path' h
  have hlist := congrArg String.toList h
  rw [String.toList_append, String.toList_append] at hlist
  exact String.toList_inj.1 (List.append_cancel_left hlist)

/-- A service whose pages are a list. -/
def listedPages : PageService (List (String × List Json)) where
  url := pageUrl
  shown pages url := pages.lookup url
  create pages content := (dictSet pages (pageUrl (newPath pages), content), newPath pages)
  edit pages path content :=
    if (pages.lookup (pageUrl path)).isSome then some (dictSet pages (pageUrl path, content))
    else none
  url_injective := append_injective _
  create_new pages _ := lookup_newPath _ pages
  create_shown pages content := by rw [lookup_dictSet, if_pos rfl]
  create_others pages content u hne := by rw [lookup_dictSet, if_neg hne]
  edit_shown pages path content pages' h := by
    split at h
    · cases h
      rw [lookup_dictSet, if_pos rfl]
    · cases h
  edit_others pages path content pages' u h hne := by
    split at h
    · cases h
      rw [lookup_dictSet, if_neg hne]
    · cases h

def termsPage : PublishedDocument := ⟨"tos", "en"⟩

def termsText : List Char := ['<', 'b', '>', 'T', '<', '/', 'b', '>']

end AegisVPN
