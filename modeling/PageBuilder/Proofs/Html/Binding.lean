import PageBuilder.Proofs.Checksum
import PageBuilder.Proofs.Html.Widgets
import Mathlib.Data.List.Nodup

/-!
Which box a script finds. Scripts look for the first box with their name, and the name of a widget
holds a check value in place of the id of its element. Every script finds its own box exactly when
no two widgets of a kind have ids with the same check value.
-/

namespace PageBuilder

section Names

/-- A name tells the kind of a widget and the check value of its id, and nothing else. -/
theorem instanceId_inj {kind other a b : String} :
    instanceId kind a = instanceId other b ↔
      kind = other ∧ crc32 a.toUTF8.toList = crc32 b.toUTF8.toList := by
  rw [← checksum_inj, ← String.toList_inj]
  unfold instanceId
  rw [String.toList_append, String.toList_append, String.toList_append, String.toList_append]
  constructor
  · intro h
    obtain ⟨hfront, hsum⟩ := List.append_inj' h (by rw [checksum_length, checksum_length])
    exact ⟨String.toList_inj.1 (List.append_cancel_right hfront), String.toList_inj.1 hsum⟩
  · rintro ⟨rfl, h⟩
    rw [h]

/-- What the name of a widget tells about it. -/
def Widget.key (w : Widget) : String × UInt32 :=
  (w.node.type.rootKind, crc32 w.node.id.toUTF8.toList)

theorem Widget.root_inj {v w : Widget} : v.node.root = w.node.root ↔ v.key = w.key := by
  rw [Node.root, Node.root, instanceId_inj, key, key, Prod.mk.injEq]

/-- Widgets of a kind share their behaviour. -/
theorem behavior_of_rootKind {t u : ElementType} {b c : Behavior} (ht : t.behavior? = some b)
    (hu : u.behavior? = some c) (h : t.rootKind = u.rootKind) : b = c := by
  let ofKind (kind : String) : Behavior :=
    if kind = "carousel" then .carousel
    else if kind = "cards" then .cardsCarousel
    else if kind = "catalog" then .catalog
    else .form
  have hkind {t : ElementType} {b : Behavior} (ht : t.behavior? = some b) :
      ofKind t.rootKind = b := by
    cases t <;> cases ht <;> rfl
  rw [← hkind ht, ← hkind hu, h]

/-- The attribute of one script is on the box of another widget with its name exactly if the two
names are equal. -/
theorem Widget.carries_iff {v w : Widget} :
    v.box.attr? w.behavior.rootAttr = some w.node.root ↔ v.key = w.key := by
  rw [v.named, ← Widget.root_inj]
  split
  · exact Option.some_inj
  · next hne =>
    refine ⟨fun h => (nomatch h), fun h => absurd ?_ hne⟩
    exact behavior_of_rootKind w.type v.type (congrArg Prod.fst (Widget.root_inj.1 h)).symm

end Names

/-- What a script finds when it looks for its root: the first start tag with the attribute of its
behaviour and the name in its configuration. -/
def ScriptBlock.target? (tokens : List Token) (b : ScriptBlock) : Option Token :=
  ((b.config.get? "root").bind Json.str?).bind fun root =>
    tokens.find? fun t => t.attr? b.behavior.rootAttr == some root

section Targets

theorem rootAttr_mem {t : ElementType} {b : Behavior} (h : t.behavior? = some b) :
    b.rootAttr ∈ Token.rootAttrs := by
  cases t <;> cases h <;> decide

/-- Among the boxes of widgets a script finds the first one of a widget with its name. -/
theorem Widget.target?_eq {tokens : List Token} {ws : List Widget}
    (h : tokens.filter Token.isRoot = ws.map Widget.box) (w : Widget) :
    w.script.target? tokens = (ws.find? fun v => v.key == w.key).map Widget.box := by
  have hroot {t : Token} (hattr : (t.attr? w.behavior.rootAttr == some w.node.root) = true) :
      t.isRoot = true :=
    List.any_eq_true.2 ⟨_, rootAttr_mem w.type, Token.hasAttr_of_attr? (eq_of_beq hattr)⟩
  have hkey (v : Widget) : (v.box.attr? w.behavior.rootAttr == some w.node.root) =
      (v.key == w.key) := by
    rw [Bool.eq_iff_iff, beq_iff_eq, beq_iff_eq, Widget.carries_iff]
  have hfind : tokens.find? (fun t => t.attr? w.behavior.rootAttr == some w.node.root) =
      (tokens.filter Token.isRoot).find? fun t =>
        t.attr? w.behavior.rootAttr == some w.node.root := by
    rw [List.find?_filter]
    congr 1
    funext t
    rw [Bool.eq_iff_iff, decide_eq_true_iff]
    exact ⟨fun hattr => ⟨hroot hattr, hattr⟩, And.right⟩
  rw [ScriptBlock.target?, w.script_root]
  change tokens.find? (fun t => t.attr? w.behavior.rootAttr == some w.node.root) = _
  rw [hfind, h, List.find?_map]
  simp only [Function.comp_def, hkey]

/-- Boxes of different nodes are told apart by their ids. -/
theorem Widget.id_of_box {v w : Widget} (h : v.box = w.box) : v.node.id = w.node.id := by
  have hid := v.isBox.2
  rw [h, w.isBox.2, Option.some_inj] at hid
  exact (escapeHtml_inj.1 (String.append_right_inj _ |>.1 hid)).symm

/-- All scripts find their own boxes exactly if no two widgets have the same name. -/
theorem targets_own_iff {tokens : List Token} {ws : List Widget}
    (h : tokens.filter Token.isRoot = ws.map Widget.box)
    (hids : (ws.map fun w => w.node.id).Nodup) :
    (∀ w ∈ ws, w.script.target? tokens = some w.box) ↔ (ws.map Widget.key).Nodup := by
  -- boxes carry the ids of their nodes, so no two widgets have the same box
  have hws : ws.Nodup := hids.of_map _
  have hsame {v w : Widget} (hv : v ∈ ws) (hw : w ∈ ws) (hbox : v.box = w.box) : v = w :=
    List.inj_on_of_nodup_map hids hv hw (Widget.id_of_box hbox)
  rw [List.nodup_map_iff_inj_on hws]
  constructor
  · intro hown v hv w hw hkey
    -- both scripts find the box of one widget, and it is the own one of both
    have hfirst := hown v hv
    rw [Widget.target?_eq h, hkey, ← Widget.target?_eq h, hown w hw] at hfirst
    exact (hsame hw hv (Option.some.inj hfirst)).symm
  · intro hinj w hw
    rw [Widget.target?_eq h]
    cases hfind : ws.find? fun v => v.key == w.key with
    | none => exact absurd (beq_self_eq_true w.key) (by simpa using List.find?_eq_none.1 hfind w hw)
    | some v =>
      have hkey := List.find?_some hfind
      rw [hinj v (List.mem_of_find?_eq_some hfind) w hw (eq_of_beq hkey)]
      rfl

end Targets

section Document

variable {sections : Sections} {options : ExportOptions} {html : String}

/-- The names in the configurations of a document's scripts are those of its widgets, which tell the
kind of a widget and the check value of the id of its element. Where all rendered nodes have ids of
their own, each script finds the box of its own widget, as a reader of the document meets the boxes,
exactly if no two widgets of a kind have ids with the same check value, and exactly then no name
stands in two configurations. Ids that differ in no more than four neighbouring bytes never have the
same check value. -/
theorem scripts_find_own_iff (h : compileDocument sections options = .ok html)
    (hids : (sections.rendered.map Node.id).Nodup) :
    ∃ (body : Fragment) (tokens : List Token) (ws : List Widget),
      sectionFragments ⟨sections, options⟩ (sections.home?.map Section.id) sections.ordered =
        .ok body ∧
      html = doctype ++ (options.layout.behind ++
        writePieces options.layout ((documentHtml sections options body).pieces 0)) ∧
      tokens = documentTokens sections options body ∧
      ((∀ c ∈ options.indent.toList, c ≠ '<') →
        ∃ rest, html = doctype ++ rest ∧ readTokens .content rest.toList = some tokens) ∧
      tokens.filterMap Token.raw? = stylesheetRead options.layout ::
        (routerScript sections :: body.scripts).map (ScriptBlock.read options.layout) ∧
      ws.map Widget.node = sections.rendered.filter (fun n => n.type.isInteractive) ∧
      body.scripts = ws.map Widget.script ∧
      (∀ w ∈ ws, w.script.config.get? "root" =
        some (.str (instanceId w.node.type.rootKind w.node.id))) ∧
      ((∀ w ∈ ws, w.script.target? tokens = some w.box) ↔ (ws.map Widget.key).Nodup) ∧
      ((ws.map fun w => w.script.config.get? "root").Nodup ↔ (ws.map Widget.key).Nodup) ∧
      (∀ kind a b, instanceId kind a = instanceId kind b ↔
        crc32 a.toUTF8.toList = crc32 b.toUTF8.toList) ∧
      ∀ front as bs behind, as.length = bs.length → as.length ≤ 4 →
        (crc32 (front ++ as ++ behind) = crc32 (front ++ bs ++ behind) ↔ as = bs) := by
  obtain ⟨body, hbody, hhtml⟩ := compileDocument_eq h
  have hsound := sectionFragments_sound hbody
  obtain ⟨ws, hnodes, hboxes, hscripts⟩ := document_widgets hbody
  have hwidgets : (ws.map fun w => w.node.id).Nodup := by
    have hmap : (ws.map fun w => w.node.id) = (ws.map Widget.node).map Node.id := by
      rw [List.map_map]
      rfl
    rw [hmap, hnodes]
    exact hids.sublist (List.filter_sublist.map _)
  refine ⟨body, _, ws, hbody, hhtml, rfl,
    fun hindent => ⟨_, hhtml, documentTokens_read hsound hindent⟩, documentTokens_raw hsound,
    hnodes, hscripts, fun w _ => w.script_root, targets_own_iff hboxes hwidgets, ?_,
    fun kind a b => ?_,
    fun front as bs behind hlength hshort => crc32_differs front behind hlength hshort⟩
  · have hws : ws.Nodup := hwidgets.of_map _
    rw [List.nodup_map_iff_inj_on hws, List.nodup_map_iff_inj_on hws]
    simp only [Widget.script_root, Option.some_inj, Json.str.injEq, Widget.root_inj]
  · rw [instanceId_inj]
    simp

/-- Two carousels in one section. -/
def carouselPair (first second : String) : Sections :=
  let carousel (id : String) : Element :=
    .mk ⟨id, .carousel, .empty, .empty, .origin, .auto⟩ []
  SortedMap.ofList [("home", { Section.home "home" "Home" with
    elements := [carousel first, carousel second] })]

theorem scripts_find_own_iff_pair :
    ((carouselPair "x-1" "x-2").rendered.map Node.id).Nodup ∧
      ∃ (html : String) (tokens : List Token) (ws : List Widget),
        compileDocument (carouselPair "x-1" "x-2") {} = .ok html ∧
        ws.map (fun w => w.node.id) = ["x-1", "x-2"] ∧
        ∀ w ∈ ws, w.script.target? tokens = some w.box := by
  have hids : ((carouselPair "x-1" "x-2").rendered.map Node.id).Nodup := by decide +kernel
  obtain ⟨html, h⟩ : ∃ html, compileDocument (carouselPair "x-1" "x-2") {} = .ok html :=
    exists_document (by decide +kernel)
  obtain ⟨body, tokens, ws, -, -, -, -, -, hnodes, -, -, hown, -⟩ := scripts_find_own_iff h hids
  have hid : ws.map (fun w => w.node.id) = (ws.map Widget.node).map Node.id := by
    rw [List.map_map]
    rfl
  have hkey : ws.map Widget.key =
      (ws.map Widget.node).map fun n => (n.type.rootKind, crc32 n.id.toUTF8.toList) := by
    rw [List.map_map]
    rfl
  refine ⟨hids, html, tokens, ws, h, ?_, hown.2 ?_⟩
  · rw [hid, hnodes]
    decide +kernel
  · rw [hkey, hnodes]
    decide +kernel

/-- The scripts of two carousels with different ids look for one name. -/
theorem carousels_share_name :
    "plumless" ≠ "buckeroo" ∧
      instanceId "carousel" "plumless" = instanceId "carousel" "buckeroo" ∧
      ((carouselPair "plumless" "buckeroo").rendered.map Node.id).Nodup ∧
      ∃ (html : String) (body : Fragment),
        compileDocument (carouselPair "plumless" "buckeroo") {} = .ok html ∧
        sectionFragments ⟨carouselPair "plumless" "buckeroo", {}⟩ (some "home")
          (carouselPair "plumless" "buckeroo").ordered = .ok body ∧
        body.scripts.map (fun b => (b.config.get? "root").bind Json.str?) =
          [some "carousel-4ddb0c25", some "carousel-4ddb0c25"] := by
  obtain ⟨html, h⟩ : ∃ html, compileDocument (carouselPair "plumless" "buckeroo") {} = .ok html :=
    exists_document (by decide +kernel)
  obtain ⟨body, hbody⟩ : ∃ body, sectionFragments ⟨carouselPair "plumless" "buckeroo", {}⟩
      (some "home") (carouselPair "plumless" "buckeroo").ordered = .ok body :=
    ok_of_isOk (by decide +kernel)
  refine ⟨by decide, by decide +kernel, by decide +kernel, html, body, h, hbody, ?_⟩
  have hroots : ((sectionFragments ⟨carouselPair "plumless" "buckeroo", {}⟩ (some "home")
      (carouselPair "plumless" "buckeroo").ordered).toOption.map fun body =>
        body.scripts.map fun b => (b.config.get? "root").bind Json.str?) =
          some [some "carousel-4ddb0c25", some "carousel-4ddb0c25"] := by decide +kernel
  rw [hbody] at hroots
  exact Option.some.inj hroots

end Document

end PageBuilder
