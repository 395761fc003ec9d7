import PageBuilder.Proofs.Document.Geometry
import PageBuilder.Proofs.Forest

/-!
Elements and patches read back from JSON, with everything below them. The induction goes down the
forest; what it needs of the reader's depth is that the levels of the text are within it.
-/

namespace PageBuilder

section Height

namespace Json

theorem height_le_of_mem {members : List (String × Json)} {m : String × Json} (h : m ∈ members) :
    m.2.height ≤ membersHeight members := by
  induction members with
  | nil => cases h
  | cons first rest ih =>
    rw [membersHeight]
    rcases List.mem_cons.1 h with rfl | h
    · exact Nat.le_max_left _ _
    · exact Nat.le_trans (ih h) (Nat.le_max_right _ _)

mutual

theorem Like.height_le {a b : Json} (h : a.Like b) : b.height ≤ a.height := by
  cases b with
  | arr bs =>
    obtain ⟨as, rfl, has⟩ := h
    exact Nat.succ_le_succ (LikeItems.height_le has)
  | obj bs =>
    obtain ⟨as, rfl, -, -, has⟩ := h
    exact Nat.succ_le_succ (LikeMembers.height_le has)
  | num n =>
    obtain ⟨m, rfl, -⟩ := h
    exact Nat.le_refl _
  | _ =>
    obtain rfl := h
    exact Nat.le_refl _
termination_by structural b

theorem LikeItems.height_le {as bs : List Json} (h : LikeItems as bs) :
    itemsHeight bs ≤ itemsHeight as := by
  cases bs with
  | nil => exact Nat.zero_le _
  | cons b bs =>
    obtain ⟨x, rest, rfl, hx, hrest⟩ := h
    have hfirst := hx.height_le
    have hothers := LikeItems.height_le hrest
    rw [itemsHeight, itemsHeight]
    omega
termination_by structural bs

theorem LikeMembers.height_le {as bs : List (String × Json)} (h : LikeMembers as bs) :
    membersHeight bs ≤ membersHeight as := by
  cases bs with
  | nil => exact Nat.zero_le _
  | cons b bs =>
    obtain ⟨⟨x, hlookup, hx⟩, hrest⟩ := h
    have hfirst := hx.height_le
    have hthere : x.height ≤ membersHeight as := height_le_of_mem (mem_of_lookup hlookup)
    have hothers := LikeMembers.height_le hrest
    rw [membersHeight]
    omega
termination_by structural bs

end

end Json

end Height

section Types

/-- A reader of types that knows the names of all of them. -/
def ReadsTypes (readType : Json → Option ElementType) : Prop :=
  ∀ t : ElementType, readType t.toJson = some t

theorem ReadsTypes.like {readType : Json → Option ElementType} (h : ReadsTypes readType)
    {t : ElementType} {j : Json} (hj : j.Like t.toJson) : readType j = some t := by
  obtain rfl : j = t.toJson := hj
  exact h t

theorem ElementType.ofJson?_readsTypes : ReadsTypes ofJson? := by
  intro t
  cases t <;> rfl

theorem ElementType.ofPayloadJson?_readsTypes : ReadsTypes ofPayloadJson? := by
  intro t
  cases t <;> rfl

end Types

section Elements

/-- The node's numbers read back, and the values of its maps are in order. -/
structure Node.ReadsBack (n : Node) : Prop where
  props : ∀ e ∈ n.props.entries, e.2.Orderly
  styles : ∀ e ∈ n.styles.entries, e.2.Orderly
  position : n.position.ReadsBack
  size : n.size.ReadsBack

/-- Every element of the forest, at any depth, has a node that reads back. -/
def Forest.ReadsBack (forest : Forest) : Prop := ∀ n ∈ Forest.nodes forest, n.ReadsBack

/-- The members of an element's record without its children. -/
def Node.members (n : Node) : List (String × Json) :=
  [("id", .str n.id), ("type", n.type.toJson), ("props", .ofMap n.props),
    ("styles", .ofMap n.styles), ("position", n.position.toJson), ("size", n.size.toJson)]

/-- The member for an element's children. -/
def Forest.members (children : Forest) : List (String × Json) :=
  if children.isEmpty then [] else [("children", Forest.toJson children)]

theorem Element.toJson_eq (node : Node) (children : Forest) :
    (Element.mk node children).toJson = .obj (node.members ++ Forest.members children) := by
  rw [Element.toJson]
  rfl

variable {readType : Json → Option ElementType}

theorem Node.ofFields?_like (hrt : ReadsTypes readType) {n : Node} (h : n.ReadsBack)
    {f : Json.Fields} {more : List (String × Json)}
    (hold : f.Hold Element.fieldNames (n.members ++ more)) :
    ∃ m, Node.ofFields? readType f = some m ∧ m.same n = true := by
  have hmem {name : String} {b : Json} (hb : (name, b) ∈ n.members) :
      (name, b) ∈ n.members ++ more := List.mem_append_left more hb
  have hid : f.required "id" Json.str? = some n.id :=
    hold.required_eq "id" (by decide) (hmem (by simp [members])) fun x hx => hx.str?
  have htype : f.required "type" readType = some n.type :=
    hold.required_eq "type" (by decide) (hmem (by simp [members]))
      fun x hx => hrt.like hx
  obtain ⟨props, hprops, hsameProps⟩ := hold.defaulted "props" .empty (by decide)
    (hmem (by simp [members])) fun x hx => hx.map h.props
  obtain ⟨styles, hstyles, hsameStyles⟩ := hold.defaulted "styles" .empty (by decide)
    (hmem (by simp [members])) fun x hx => hx.map h.styles
  obtain ⟨position, hposition, hsamePosition⟩ := hold.defaulted "position" .origin (by decide)
    (hmem (by simp [members])) fun x hx => Position.ofJson?_like h.position hx
  obtain ⟨size, hsize, hsameSize⟩ := hold.defaulted "size" .auto (by decide)
    (hmem (by simp [members])) fun x hx => Size.ofJson?_like h.size hx
  refine ⟨⟨n.id, n.type, props, styles, position, size⟩, ?_, ?_⟩
  · simp only [ofFields?, hid, htype, hprops, hstyles, hposition, hsize, Option.bind_eq_bind,
      Option.bind_some]
    rfl
  · simp only [same, beq_self_eq_true, hsameProps, hsameStyles, hsamePosition, hsameSize,
      Bool.and_self]

theorem Forest.readsBack_cons {e : Element} {rest : Forest} :
    Forest.ReadsBack (e :: rest) ↔ e.node.ReadsBack ∧ Forest.ReadsBack e.children ∧
      Forest.ReadsBack rest := by
  unfold Forest.ReadsBack
  rw [Forest.nodes_cons, Element.nodes_eq]
  simp only [List.cons_append, List.forall_mem_cons, List.forall_mem_append]

mutual

/-- An element is read as an equal one, if the reader goes deep enough. -/
theorem Element.ofJsonWithin?_like (hrt : ReadsTypes readType) (e : Element)
    (hnode : e.node.ReadsBack) (hbelow : Forest.ReadsBack e.children) (depth : Nat)
    (hdepth : e.toJson.height ≤ depth) (j : Json) (hj : j.Like e.toJson) :
    ∃ d, Element.ofJsonWithin? readType depth j = some d ∧ d.same e = true := by
  obtain ⟨node, children⟩ := e
  rw [Element.toJson_eq] at hdepth hj
  obtain ⟨depth, rfl⟩ : ∃ n, depth = n + 1 := ⟨depth - 1, by
    rw [Json.height] at hdepth
    omega⟩
  obtain ⟨f, hf, hold⟩ := hj.fields Element.fieldNames
  obtain ⟨n, hn, hsame⟩ : ∃ n, Node.ofFields? readType f = some n ∧ n.same node = true :=
    Node.ofFields?_like hrt hnode hold
  obtain ⟨forest, hforest, hsameForest⟩ : ∃ forest,
      f.defaulted "children" [] (Json.list? (Element.ofJsonWithin? readType depth)) = some forest ∧
        Forest.same forest children = true := by
    -- an element without children has no such member and gets the default
    by_cases hnone : children = []
    · refine ⟨[], hold.defaulted_absent "children" [] ?_, by rw [hnone]; rfl⟩
      simp [hnone, Node.members, Forest.members]
    · have hmember : ("children", Forest.toJson children) ∈
          node.members ++ Forest.members children := by
        simp [Forest.members, hnone]
      have hheight : (Forest.toJson children).height ≤ depth := by
        have hle := Json.height_le_of_mem hmember
        rw [Json.height] at hdepth
        exact Nat.le_trans hle (Nat.le_of_succ_le_succ hdepth)
      refine hold.defaulted "children" [] (by decide) hmember fun x hx => ?_
      obtain ⟨xs, rfl, hxs⟩ := hx
      rw [Forest.toJson, Json.height] at hheight
      exact Forest.mapM_like hrt children hbelow depth (Nat.le_of_succ_le hheight) xs hxs
  refine ⟨.mk n forest, ?_, ?_⟩
  · simp only [Element.ofJsonWithin?, hf, hn, hforest, Option.bind_eq_bind, Option.bind_some]
    rfl
  · rw [Element.same, hsame, hsameForest, Bool.and_self]
termination_by structural e

theorem Forest.mapM_like (hrt : ReadsTypes readType) (forest : List Element)
    (h : Forest.ReadsBack forest) (depth : Nat)
    (hdepth : Json.itemsHeight (Forest.toJsonItems forest) ≤ depth) (js : List Json)
    (hjs : Json.LikeItems js (Forest.toJsonItems forest)) :
    ∃ ds, js.mapM (Element.ofJsonWithin? readType depth) = some ds ∧
      Forest.same ds forest = true := by
  cases forest with
  | nil =>
    obtain rfl : js = [] := hjs
    exact ⟨[], rfl, rfl⟩
  | cons e rest =>
    obtain ⟨j, others, rfl, hj, hothers⟩ := hjs
    obtain ⟨hnode, hbelow, hrest⟩ := Forest.readsBack_cons.1 h
    rw [Forest.toJsonItems, Json.itemsHeight] at hdepth
    obtain ⟨d, hd, hsame⟩ :=
      Element.ofJsonWithin?_like hrt e hnode hbelow depth (by omega) j hj
    obtain ⟨ds, hds, hsames⟩ := Forest.mapM_like hrt rest hrest depth (by omega) others hothers
    refine ⟨d :: ds, ?_, by rw [Forest.same, hsame, hsames, Bool.and_self]⟩
    rw [List.mapM_cons, hd, hds]
    rfl
termination_by structural forest

end

/-- Every part of the element reads back. -/
def Element.ReadsBack (e : Element) : Prop := Forest.ReadsBack [e]

theorem Element.ofJsonWith?_like (hrt : ReadsTypes readType) {e : Element} (h : e.ReadsBack)
    {j : Json} (hj : j.Like e.toJson) :
    ∃ d, ofJsonWith? readType j = some d ∧ d.same e = true := by
  obtain ⟨hnode, hbelow, -⟩ := Forest.readsBack_cons.1 h
  exact ofJsonWithin?_like hrt e hnode hbelow j.height hj.height_le j hj

theorem Forest.ofJsonWith?_like (hrt : ReadsTypes readType) {forest : Forest}
    (h : Forest.ReadsBack forest) {j : Json} (hj : j.Like (Forest.toJson forest)) :
    ∃ ds, ofJsonWith? readType j = some ds ∧ Forest.same ds forest = true := by
  obtain ⟨js, rfl, hjs⟩ := hj
  change ∃ ds, js.mapM (Element.ofJsonWith? readType) = some ds ∧ _
  induction forest generalizing js with
  | nil =>
    obtain rfl : js = [] := hjs
    exact ⟨[], rfl, rfl⟩
  | cons e rest ih =>
    obtain ⟨j, others, rfl, hj, hothers⟩ := hjs
    obtain ⟨hnode, hbelow, hrest⟩ := Forest.readsBack_cons.1 h
    obtain ⟨d, hd, hsame⟩ :=
      Element.ofJsonWithin?_like hrt e hnode hbelow j.height hj.height_le j hj
    obtain ⟨ds, hds, hsames⟩ := ih hrest others hothers
    refine ⟨d :: ds, ?_, by rw [Forest.same, hsame, hsames, Bool.and_self]⟩
    rw [List.mapM_cons, hds, Element.ofJsonWith?, hd]
    rfl

theorem writable_ofMap {m : SortedMap Json} (h : ∀ e ∈ m.entries, e.2.Orderly) :
    (Json.ofMap m).Writable :=
  ⟨m.ascending.distinctKeys, Json.membersThroughout_iff.2 fun e he => (h e he).writable⟩

theorem Node.members_writable {n : Node} (h : n.ReadsBack) :
    ∀ m ∈ n.members, m.2.Writable := by
  intro m hm
  simp only [members, List.mem_cons, List.not_mem_nil, or_false] at hm
  rcases hm with rfl | rfl | rfl | rfl | rfl | rfl
  · trivial
  · trivial
  · exact writable_ofMap h.props
  · exact writable_ofMap h.styles
  · exact Position.toJson_writable h.position
  · exact Size.toJson_writable n.size

mutual

theorem Element.toJson_writable (e : Element) (hnode : e.node.ReadsBack)
    (hbelow : Forest.ReadsBack e.children) : e.toJson.Writable := by
  obtain ⟨node, children⟩ := e
  rw [Element.toJson_eq]
  refine ⟨?_, Json.membersThroughout_iff.2 ?_⟩
  · by_cases hnone : children.isEmpty <;>
      simp [DistinctKeys, Node.members, Forest.members, hnone]
  · rw [List.forall_mem_append]
    refine ⟨Node.members_writable hnode, ?_⟩
    unfold Forest.members
    split
    · intro m hm
      cases hm
    · intro m hm
      obtain rfl := List.mem_singleton.1 hm
      exact Forest.toJsonItems_writable children hbelow
termination_by structural e

theorem Forest.toJsonItems_writable (forest : List Element) (h : Forest.ReadsBack forest) :
    Json.ItemsThroughout Json.Number.ReadsBack DistinctKeys (Forest.toJsonItems forest) := by
  cases forest with
  | nil => trivial
  | cons e rest =>
    obtain ⟨hnode, hbelow, hrest⟩ := Forest.readsBack_cons.1 h
    exact ⟨Element.toJson_writable e hnode hbelow, Forest.toJsonItems_writable rest hrest⟩
termination_by structural forest

end

theorem Forest.toJson_writable {forest : Forest} (h : Forest.ReadsBack forest) :
    (Forest.toJson forest).Writable := Forest.toJsonItems_writable forest h

section Boxes

/-- Boxes inside each other. -/
def boxes : Nat → Element
  | 0 => .mk ⟨"box", .container, .empty, .empty, .origin, .auto⟩ []
  | n + 1 => .mk ⟨"box", .container, .empty, .empty, .origin, .auto⟩ [boxes n]

theorem boxes_readsBack (n : Nat) : (boxes n).ReadsBack := by
  have hnode : Node.ReadsBack ⟨"box", .container, .empty, .empty, .origin, .auto⟩ := by
    refine ⟨nofun, nofun, ?_, trivial, trivial⟩
    exact ⟨⟨_, rfl, by decide⟩, ⟨_, rfl, by decide⟩⟩
  have hnone : Forest.ReadsBack [] := nofun
  induction n with
  | zero => exact Forest.readsBack_cons.2 ⟨hnode, hnone, hnone⟩
  | succ n ih => exact Forest.readsBack_cons.2 ⟨hnode, ih, hnone⟩

/-- Each box takes a level for its record and one for the list of its children. -/
theorem boxes_levels (n : Nat) : (boxes n).toJson.levels = 2 * n + 2 := by
  induction n with
  | zero => rfl
  | succ n ih =>
    have hposition : Position.origin.toJson.levels = 1 := rfl
    have hsize : Size.auto.toJson.levels = 1 := rfl
    have htype : ElementType.container.toJson.levels = 0 := rfl
    rw [boxes, Element.toJson_eq]
    simp only [Node.members, Forest.members, Forest.toJson, Forest.toJsonItems, List.isEmpty_cons,
      Bool.false_eq_true, if_false, List.cons_append, List.nil_append, Json.levels,
      Json.membersLevels, Json.itemsLevels, Json.ofMap, SortedMap.empty, hposition, hsize, htype,
      ih]
    omega

end Boxes

end Elements

section Patches

/-- Equality of two values that may be missing. -/
def sameOption {α : Type} (eq : α → α → Bool) : Option α → Option α → Bool
  | some a, some b => eq a b
  | none, none => true
  | _, _ => false

/-- The members that are there. -/
def presentMembers (slots : List (String × Option Json)) : List (String × Json) :=
  slots.filterMap fun s => s.2.map fun j => (s.1, j)

theorem mem_presentMembers {slots : List (String × Option Json)} {name : String} {j : Json} :
    (name, j) ∈ presentMembers slots ↔ (name, some j) ∈ slots := by
  simp [presentMembers]

theorem presentMembers_keys (slots : List (String × Option Json)) :
    ((presentMembers slots).map Prod.fst).Sublist (slots.map Prod.fst) := by
  induction slots with
  | nil => exact List.Sublist.slnil
  | cons s rest ih =>
    obtain ⟨name, value⟩ := s
    cases value with
    | none => exact List.Sublist.cons name ih
    | some j => exact List.Sublist.cons_cons name ih

theorem presentMembers_distinct {slots : List (String × Option Json)} (h : DistinctKeys slots) :
    DistinctKeys (presentMembers slots) := h.sublist (presentMembers_keys slots)

theorem not_mem_presentMembers {slots : List (String × Option Json)} (h : DistinctKeys slots)
    {name : String} (hname : (name, none) ∈ slots) :
    name ∉ (presentMembers slots).map Prod.fst := by
  intro hmem
  obtain ⟨⟨k, j⟩, hj, rfl⟩ := List.mem_map.1 hmem
  have hsome := lookup_of_mem h (mem_presentMembers.1 hj)
  rw [lookup_of_mem h hname] at hsome
  cases hsome

/-- A field that may be missing is read as it was written, missing or not. -/
theorem Json.Fields.Hold.slot {α : Type} {f : Fields} {names : List String}
    {slots : List (String × Option Json)} (hold : f.Hold names (presentMembers slots))
    (hslots : DistinctKeys slots) (name : String) (hname : name ∈ names) {value : Option α}
    {encode : α → Json} (hmem : (name, value.map encode) ∈ slots)
    (hnull : ∀ v, encode v ≠ .null) {read : Json → Option α} {eq : α → α → Bool}
    (hread : ∀ v, value = some v → ∀ x : Json, x.Like (encode v) →
      ∃ w, read x = some w ∧ eq w v = true) :
    ∃ w, f.optionalEnd name read = some w ∧ sameOption eq w value = true := by
  cases value with
  | none =>
    refine ⟨none, hold.optionalEnd_absent name (not_mem_presentMembers hslots hmem), rfl⟩
  | some v =>
    obtain ⟨w, hw, heq⟩ := hold.optionalEnd name hname (mem_presentMembers.2 hmem) (hnull v)
      (hread v rfl)
    exact ⟨some w, hw, heq⟩

namespace Patch

/-- Equality of patches, with numbers compared as numbers. -/
def same (a b : Patch) : Bool :=
  sameOption (SortedMap.sameBy Json.same) a.props b.props &&
    sameOption (SortedMap.sameBy Json.same) a.styles b.styles &&
    sameOption Position.same a.position b.position && sameOption Size.same a.size b.size &&
    sameOption Forest.same a.children b.children

/-- Every part that the patch has reads back. -/
structure ReadsBack (p : Patch) : Prop where
  props : ∀ m, p.props = some m → ∀ e ∈ m.entries, e.2.Orderly
  styles : ∀ m, p.styles = some m → ∀ e ∈ m.entries, e.2.Orderly
  position : ∀ q, p.position = some q → q.ReadsBack
  size : ∀ s, p.size = some s → s.ReadsBack
  children : ∀ forest, p.children = some forest → Forest.ReadsBack forest

/-- The fields of a patch, missing or not. -/
def slots (p : Patch) : List (String × Option Json) :=
  [("props", p.props.map .ofMap), ("styles", p.styles.map .ofMap),
    ("position", p.position.map Position.toJson), ("size", p.size.map Size.toJson),
    ("children", p.children.map Forest.toJson)]

theorem toJson_eq (p : Patch) : p.toJson = .obj (presentMembers p.slots) := by
  obtain ⟨_ | props, _ | styles, _ | position, _ | size, _ | children⟩ := p <;> rfl

theorem slots_distinct (p : Patch) : DistinctKeys p.slots := by
  simp [DistinctKeys, slots]

theorem ofJsonWith?_like {readType : Json → Option ElementType} (hrt : ReadsTypes readType)
    {p : Patch} (h : p.ReadsBack) {j : Json} (hj : j.Like p.toJson) :
    ∃ q, ofJsonWith? readType j = some q ∧ q.same p = true := by
  rw [toJson_eq] at hj
  obtain ⟨f, hf, hold⟩ := hj.fields ["props", "styles", "position", "size", "children"]
  have hslots := p.slots_distinct
  have hmap (m : SortedMap Json) : Json.ofMap m ≠ .null := Json.noConfusion
  obtain ⟨props, hprops, hsameProps⟩ := hold.slot hslots "props" (by decide) (by simp [slots]) hmap
    fun m hm x hx => hx.map (h.props m hm)
  obtain ⟨styles, hstyles, hsameStyles⟩ := hold.slot hslots "styles" (by decide) (by simp [slots])
    hmap fun m hm x hx => hx.map (h.styles m hm)
  obtain ⟨position, hposition, hsamePosition⟩ := hold.slot hslots "position" (by decide)
    (by simp [slots]) (fun _ => Json.noConfusion)
    fun q hq x hx => Position.ofJson?_like (h.position q hq) hx
  obtain ⟨size, hsize, hsameSize⟩ := hold.slot hslots "size" (by decide) (by simp [slots])
    (fun _ => Json.noConfusion) fun s hs x hx => Size.ofJson?_like (h.size s hs) hx
  obtain ⟨children, hchildren, hsameChildren⟩ := hold.slot hslots "children" (by decide)
    (by simp [slots]) (fun _ => Json.noConfusion)
    fun forest hforest x hx => Forest.ofJsonWith?_like hrt (h.children forest hforest) hx
  refine ⟨⟨props, styles, position, size, children⟩, ?_, ?_⟩
  · simp only [ofJsonWith?, hf, hprops, hstyles, hposition, hsize, hchildren, Option.bind_eq_bind,
      Option.bind_some]
    rfl
  · simp only [same, hsameProps, hsameStyles, hsamePosition, hsameSize, hsameChildren,
      Bool.and_self]

theorem toJson_writable {p : Patch} (h : p.ReadsBack) : p.toJson.Writable := by
  rw [toJson_eq]
  refine ⟨presentMembers_distinct p.slots_distinct, Json.membersThroughout_iff.2 ?_⟩
  rintro ⟨name, j⟩ hm
  have hslot := mem_presentMembers.1 hm
  simp only [slots, List.mem_cons, Prod.mk.injEq, List.not_mem_nil, or_false] at hslot
  rcases hslot with ⟨-, hj⟩ | ⟨-, hj⟩ | ⟨-, hj⟩ | ⟨-, hj⟩ | ⟨-, hj⟩
  all_goals obtain ⟨v, hv, rfl⟩ := Option.map_eq_some_iff.1 hj.symm
  · exact writable_ofMap (h.props v hv)
  · exact writable_ofMap (h.styles v hv)
  · exact Position.toJson_writable (h.position v hv)
  · exact Size.toJson_writable v
  · exact Forest.toJson_writable (h.children v hv)

end Patch

end Patches

end PageBuilder
