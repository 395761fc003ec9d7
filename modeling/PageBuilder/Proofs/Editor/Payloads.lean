import PageBuilder.Editor.Command
import PageBuilder.Proofs.Document.Sections
import PageBuilder.Proofs.Json.Printed

/-!
Commands read back from the JSON they are written as. The kind stands beside the fields, so that a
reader first takes it out of the object; the rest are fields of parts that read back themselves.
-/

namespace PageBuilder

namespace Json

theorem filter_eq_of_mem {as : List (String × Json)} (h : DistinctKeys as) {key : String} {x : Json}
    (hmem : (key, x) ∈ as) : (as.filter fun m => m.1 == key) = [(key, x)] := by
  induction as with
  | nil => cases hmem
  | cons m rest ih =>
    obtain ⟨hfresh, hrest⟩ := List.nodup_cons.1 h
    rcases List.mem_cons.1 hmem with rfl | hmem
    · have hnone : (rest.filter fun m => m.1 == key) = [] := by
        rw [List.filter_eq_nil_iff]
        intro e he hkey
        exact hfresh (List.mem_map.2 ⟨e, he, eq_of_beq hkey⟩)
      rw [List.filter_cons_of_pos (by simp), hnone]
    · have hne : (m.1 == key) = false := by
        apply beq_false_of_ne
        rintro rfl
        exact hfresh (List.mem_map.2 ⟨_, hmem, rfl⟩)
      rw [List.filter_cons_of_neg (by rw [hne]; exact Bool.false_ne_true)]
      exact ih hrest hmem

/-- A member taken out of an object leaves the others. -/
theorem Like.takeOut {as bs : List (String × Json)} {key : String} {b : Json}
    (h : (Json.obj as).Like (.obj ((key, b) :: bs))) :
    ∃ x, (as.filter fun m => m.1 == key) = [(key, x)] ∧ x.Like b ∧
      (Json.obj (as.filter fun m => m.1 != key)).Like (.obj bs) := by
  obtain ⟨as, ⟨⟩, hdistinct, hkeys, ⟨x, hx, hlike⟩, hothers⟩ := h
  have hbs : DistinctKeys ((key, b) :: bs) := hkeys.nodup_iff.1 hdistinct
  obtain ⟨hfresh, -⟩ := List.nodup_cons.1 hbs
  have hkept : DistinctKeys (as.filter fun m => m.1 != key) :=
    hdistinct.sublist (List.filter_sublist.map Prod.fst)
  refine ⟨x, filter_eq_of_mem hdistinct (mem_of_lookup hx), hlike, _, rfl, hkept, ?_, ?_⟩
  · have hmap : ((as.filter fun m => m.1 != key).map Prod.fst) =
        (as.map Prod.fst).filter fun k => k != key := by
      rw [List.filter_map]
      rfl
    have hfirst : (((key, b) :: bs).map Prod.fst).filter (fun k => k != key) =
        bs.map Prod.fst := by
      rw [List.map_cons, List.filter_cons_of_neg (by simp)]
      refine List.filter_eq_self.2 fun k hk => bne_iff_ne.2 ?_
      rintro rfl
      exact hfresh hk
    rw [hmap, ← hfirst]
    exact hkeys.filter _
  · rw [likeMembers_iff] at hothers ⊢
    intro k c hc
    obtain ⟨y, hy, hlike⟩ := hothers k c hc
    refine ⟨y, lookup_of_mem hkept (List.mem_filter.2 ⟨mem_of_lookup hy, ?_⟩), hlike⟩
    apply bne_iff_ne.2
    rintro rfl
    exact hfresh (List.mem_map.2 ⟨_, hc, rfl⟩)

end Json

namespace Command

/-- Equality of commands, with numbers compared as numbers. -/
def same : Command → Command → Bool
  | .addElement a, .addElement b => a.same b
  | .updateElement i p, .updateElement j q => i == j && p.same q
  | .deleteElement i, .deleteElement j => i == j
  | .selectElement i, .selectElement j => i == j
  | .moveElement i p, .moveElement j q => i == j && p.same q
  | .resizeElement i s, .resizeElement j t => i == j && s.same t
  | .reorderElements a, .reorderElements b => Forest.same a b
  | .setZoom x, .setZoom y => x == y
  | .setCanvasSize w h, .setCanvasSize v i => w == v && h == i
  | .loadTemplate a, .loadTemplate b => Forest.same a b
  | .loadProject m i, .loadProject n j => m.same n && i == j
  | .clearCanvas, .clearCanvas => true
  | .addSection a, .addSection b => a == b
  | .removeSection i, .removeSection j => i == j
  | .switchSection i, .switchSection j => i == j
  | .undo, .undo => true
  | .redo, .redo => true
  | _, _ => false

/-- Every number in the command reads back, and the maps in its elements are in order. -/
def ReadsBack : Command → Prop
  | .addElement element => element.ReadsBack
  | .updateElement _ patch => patch.ReadsBack
  | .moveElement _ position => position.ReadsBack
  | .resizeElement _ size => size.ReadsBack
  | .reorderElements elements => Forest.ReadsBack elements
  | .setZoom zoom => (Json.Number.float zoom).ReadsBack
  | .setCanvasSize width height =>
    (Json.Number.float width).ReadsBack ∧ (Json.Number.float height).ReadsBack
  | .loadTemplate elements => Forest.ReadsBack elements
  | .loadProject sections _ => sections.ReadsBack
  | _ => True

variable {body : Json}

theorem field_like {α : Type} {name : String} {b : Json} (h : body.Like (.obj [(name, b)]))
    {read : Json → Option α} {P : α → Prop}
    (hread : ∀ x, x.Like b → ∃ v, read x = some v ∧ P v) :
    ∃ f v, body.fields? [name] = some f ∧ f.required name read = some v ∧ P v := by
  obtain ⟨f, hf, hold⟩ := h.fields [name]
  obtain ⟨v, hv, hP⟩ := hold.required name (List.mem_singleton.2 rfl) (List.mem_singleton.2 rfl)
    hread
  exact ⟨f, v, hf, hv, hP⟩

theorem text_like {name s : String} (h : body.Like (.obj [(name, .str s)])) :
    ∃ f, body.fields? [name] = some f ∧ f.required name Json.str? = some s := by
  obtain ⟨f, v, hf, hv, rfl⟩ := field_like h (P := fun v => v = s) fun x hx => ⟨s, hx.str?, rfl⟩
  exact ⟨f, hf, hv⟩

theorem withId_like {α : Type} {name id : String} {b : Json}
    (h : body.Like (.obj [("id", .str id), (name, b)])) {read : Json → Option α} {P : α → Prop}
    (hread : ∀ x, x.Like b → ∃ v, read x = some v ∧ P v) :
    ∃ f v, body.fields? ["id", name] = some f ∧ f.required "id" Json.str? = some id ∧
      f.required name read = some v ∧ P v := by
  obtain ⟨f, hf, hold⟩ := h.fields ["id", name]
  have hid : f.required "id" Json.str? = some id :=
    hold.required_eq "id" (by simp) (by simp) fun x hx => hx.str?
  obtain ⟨v, hv, hP⟩ := hold.required name (by simp) (by simp) hread
  exact ⟨f, v, hf, hid, hv, hP⟩

theorem optional_text_like {f : Json.Fields} {names : List String} {bs : List (String × Json)}
    (hold : f.Hold names bs) (name : String) (hname : name ∈ names) (s : Option String)
    (hmem : (name, Json.option .str s) ∈ bs) : f.optionalEnd name Json.str? = some s := by
  cases s with
  | none => exact hold.optionalEnd_null name hname hmem
  | some s =>
    obtain ⟨v, hv, rfl⟩ := hold.optionalEnd name hname hmem (P := fun v => v = s)
      (Json.noConfusion) fun x hx => ⟨s, Json.Like.str? hx, rfl⟩
    exact hv

theorem ofKind?_like {c : Command} (h : c.ReadsBack) (hbody : body.Like (.obj c.fields)) :
    ∃ d, ofKind? c.kind body = some d ∧ d.same c = true := by
  have hpayload := ElementType.ofPayloadJson?_readsTypes
  cases c with
  | addElement element =>
    obtain ⟨f, e, hf, he, hsame⟩ := field_like hbody
      fun x hx => Element.ofJsonWith?_like hpayload h hx
    refine ⟨.addElement e, ?_, hsame⟩
    simp only [kind, ofKind?, hf, Element.ofPayloadJson?, he, Option.bind_eq_bind, Option.bind_some,
      Option.pure_def]
  | updateElement id patch =>
    obtain ⟨f, p, hf, hid, hp, hsame⟩ := withId_like hbody
      fun x hx => Patch.ofJsonWith?_like hpayload h hx
    refine ⟨.updateElement id p, ?_, by simp only [same, beq_self_eq_true, hsame, Bool.and_self]⟩
    simp only [kind, ofKind?, hf, hid, Patch.ofPayloadJson?, hp, Option.bind_eq_bind,
      Option.bind_some, Option.pure_def]
  | deleteElement id =>
    obtain ⟨f, hf, hid⟩ := text_like hbody
    refine ⟨.deleteElement id, ?_, by simp only [same, beq_self_eq_true]⟩
    simp only [kind, ofKind?, hf, hid, Option.bind_eq_bind, Option.bind_some, Option.pure_def]
  | selectElement id =>
    obtain ⟨f, hf, hold⟩ := hbody.fields ["id"]
    have hid : f.optional "id" Json.str? = some id := by
      rw [hold.optional_eq]
      exact optional_text_like hold "id" (by simp) id (by simp [fields])
    refine ⟨.selectElement id, ?_, by simp only [same, beq_self_eq_true]⟩
    simp only [kind, ofKind?, hf, hid, Option.bind_eq_bind, Option.bind_some, Option.pure_def]
  | moveElement id position =>
    obtain ⟨f, p, hf, hid, hp, hsame⟩ := withId_like hbody
      fun x hx => Position.ofJson?_like h hx
    refine ⟨.moveElement id p, ?_, by simp only [same, beq_self_eq_true, hsame, Bool.and_self]⟩
    simp only [kind, ofKind?, hf, hid, hp, Option.bind_eq_bind, Option.bind_some, Option.pure_def]
  | resizeElement id size =>
    obtain ⟨f, s, hf, hid, hs, hsame⟩ := withId_like hbody fun x hx => Size.ofJson?_like h hx
    refine ⟨.resizeElement id s, ?_, by simp only [same, beq_self_eq_true, hsame, Bool.and_self]⟩
    simp only [kind, ofKind?, hf, hid, hs, Option.bind_eq_bind, Option.bind_some, Option.pure_def]
  | reorderElements elements =>
    obtain ⟨f, es, hf, hes, hsame⟩ := field_like hbody
      fun x hx => Forest.ofJsonWith?_like hpayload h hx
    refine ⟨.reorderElements es, ?_, hsame⟩
    simp only [kind, ofKind?, hf, Forest.ofPayloadJson?, hes, Option.bind_eq_bind, Option.bind_some,
      Option.pure_def]
  | setZoom zoom =>
    obtain ⟨f, x, hf, hx, hsame⟩ := field_like hbody fun j hj => Json.Like.float h hj
    refine ⟨.setZoom x, ?_, hsame⟩
    simp only [kind, ofKind?, hf, hx, Option.bind_eq_bind, Option.bind_some, Option.pure_def]
  | setCanvasSize width height =>
    obtain ⟨f, hf, hold⟩ := hbody.fields ["width", "height"]
    obtain ⟨w, hw, hwidth⟩ := hold.required "width" (by simp) (by simp [fields])
      fun j hj => Json.Like.float h.1 hj
    obtain ⟨v, hv, hheight⟩ := hold.required "height" (by simp) (by simp [fields])
      fun j hj => Json.Like.float h.2 hj
    refine ⟨.setCanvasSize w v, ?_, by simp only [same, hwidth, hheight, Bool.and_self]⟩
    simp only [kind, ofKind?, hf, hw, hv, Option.bind_eq_bind, Option.bind_some, Option.pure_def]
  | loadTemplate elements =>
    obtain ⟨f, es, hf, hes, hsame⟩ := field_like hbody
      fun x hx => Forest.ofJsonWith?_like hpayload h hx
    refine ⟨.loadTemplate es, ?_, hsame⟩
    simp only [kind, ofKind?, hf, Forest.ofPayloadJson?, hes, Option.bind_eq_bind, Option.bind_some,
      Option.pure_def]
  | loadProject sections active =>
    obtain ⟨f, hf, hold⟩ := hbody.fields ["sections", "activeSection"]
    obtain ⟨m, hm, hsame⟩ := hold.required "sections" (by simp) (by simp [fields])
      fun x hx => Sections.ofJsonWith?_like hpayload h hx
    have hactive : f.optionalEnd "activeSection" Json.str? = some active :=
      optional_text_like hold "activeSection" (by simp) active (by simp [fields])
    refine ⟨.loadProject m active, ?_, by simp only [same, beq_self_eq_true, hsame, Bool.and_self]⟩
    simp only [kind, ofKind?, hf, Sections.ofPayloadJson?, hm, hactive, Option.bind_eq_bind,
      Option.bind_some, Option.pure_def]
  | addSection name =>
    obtain ⟨f, hf, hname⟩ := text_like hbody
    refine ⟨.addSection name, ?_, by simp only [same, beq_self_eq_true]⟩
    simp only [kind, ofKind?, hf, hname, Option.bind_eq_bind, Option.bind_some, Option.pure_def]
  | removeSection id =>
    obtain ⟨f, hf, hid⟩ := text_like hbody
    refine ⟨.removeSection id, ?_, by simp only [same, beq_self_eq_true]⟩
    simp only [kind, ofKind?, hf, hid, Option.bind_eq_bind, Option.bind_some, Option.pure_def]
  | switchSection id =>
    obtain ⟨f, hf, hid⟩ := text_like hbody
    refine ⟨.switchSection id, ?_, by simp only [same, beq_self_eq_true]⟩
    simp only [kind, ofKind?, hf, hid, Option.bind_eq_bind, Option.bind_some, Option.pure_def]
  | clearCanvas =>
    obtain ⟨f, hf, -⟩ := hbody.fields []
    exact ⟨.clearCanvas, by simp only [kind, ofKind?, hf, Option.map_some], rfl⟩
  | undo =>
    obtain ⟨f, hf, -⟩ := hbody.fields []
    exact ⟨.undo, by simp only [kind, ofKind?, hf, Option.map_some], rfl⟩
  | redo =>
    obtain ⟨f, hf, -⟩ := hbody.fields []
    exact ⟨.redo, by simp only [kind, ofKind?, hf, Option.map_some], rfl⟩

theorem ofJson?_like {c : Command} (h : c.ReadsBack) {j : Json} (hj : j.Like c.toJson) :
    ∃ d, ofJson? j = some d ∧ d.same c = true := by
  obtain ⟨as, rfl, hrest⟩ := hj
  obtain ⟨x, htype, hkind, hbody⟩ := Json.Like.takeOut ⟨as, rfl, hrest⟩
  obtain rfl : x = .str c.kind := hkind
  obtain ⟨d, hd, hsame⟩ := ofKind?_like h hbody
  refine ⟨d, ?_, hsame⟩
  simp only [ofJson?, htype, hd]

theorem option_text_writable (s : Option String) : (Json.option .str s).Writable := by
  cases s <;> trivial

theorem toJson_writable {c : Command} (h : c.ReadsBack) : c.toJson.Writable := by
  refine ⟨by cases c <;> simp [DistinctKeys, fields], trivial, ?_⟩
  cases c with
  | addElement element =>
    obtain ⟨hnode, hbelow, -⟩ := Forest.readsBack_cons.1 h
    exact ⟨Element.toJson_writable element hnode hbelow, trivial⟩
  | updateElement id patch => exact ⟨trivial, Patch.toJson_writable h, trivial⟩
  | selectElement id => exact ⟨option_text_writable id, trivial⟩
  | moveElement id position => exact ⟨trivial, Position.toJson_writable h, trivial⟩
  | resizeElement id size => exact ⟨trivial, Size.toJson_writable size, trivial⟩
  | reorderElements elements => exact ⟨Forest.toJson_writable h, trivial⟩
  | loadTemplate elements => exact ⟨Forest.toJson_writable h, trivial⟩
  | setZoom zoom => exact ⟨by rw [Json.ofFloat_eq h]; exact h, trivial⟩
  | setCanvasSize width height =>
    refine ⟨?_, ?_, trivial⟩
    · rw [Json.ofFloat_eq h.1]
      exact h.1
    · rw [Json.ofFloat_eq h.2]
      exact h.2
  | loadProject sections active =>
    exact ⟨Sections.toJson_writable h, option_text_writable active, trivial⟩
  | clearCanvas => trivial
  | undo => trivial
  | redo => trivial
  | _ => exact ⟨trivial, trivial⟩

/-- A command whose numbers read back is read from its payload as an equal command. Only a payload
that opens more lists and objects inside each other than a reader takes is refused. -/
theorem payload_reads_back (c : Command) (h : c.ReadsBack) :
    (c.toJson.levels ≤ Json.maxNesting →
      ∃ d, ofPayload? c.toJson.compact = some d ∧ d.same c = true) ∧
    (Json.maxNesting < c.toJson.levels → ofPayload? c.toJson.compact = none) := by
  have hwritable := toJson_writable h
  obtain ⟨j, hsame, hread⟩ :=
    Json.readOutlined?_compact (Json.Outline.whole_covers c.toJson) hwritable
  have hlike := Json.like_of_same j c.toJson hsame hwritable
  constructor
  · intro hlevels
    rw [if_pos hlevels] at hread
    obtain ⟨d, hd, hequal⟩ := ofJson?_like h hlike
    exact ⟨d, by rw [ofPayload?, Json.read?, hread, Option.bind_some, hd], hequal⟩
  · intro hlevels
    rw [if_neg (Nat.not_le.2 hlevels)] at hread
    rw [ofPayload?, Json.read?, hread, Option.bind_none]

/-- A patch that resizes an element, moves it and takes its children away. -/
def emptying : Command :=
  .updateElement "box"
    { size := some ⟨.px 12.5, .auto⟩, position := some ⟨-0.0, 0.1⟩, children := some [] }

theorem payload_reads_back_emptying :
    emptying.ReadsBack ∧ emptying.toJson.levels ≤ Json.maxNesting ∧
      ∃ d, ofPayload? emptying.toJson.compact = some d ∧ d.same emptying = true := by
  have hbox : emptying.ReadsBack := by
    refine ⟨nofun, nofun, ?_, ?_, ?_⟩
    · intro q hq
      obtain rfl := Option.some.inj hq
      exact ⟨⟨_, rfl, by decide⟩, ⟨_, rfl, by decide⟩⟩
    · intro s hs
      obtain rfl := Option.some.inj hs
      exact ⟨⟨by decide, _, rfl, by decide⟩, trivial⟩
    · intro forest hforest
      obtain rfl := Option.some.inj hforest
      intro n hn
      cases hn
  have hlevels : emptying.toJson.levels ≤ Json.maxNesting := by decide
  exact ⟨hbox, hlevels, (payload_reads_back emptying hbox).1 hlevels⟩

/-- Sixty-four boxes inside each other make a payload that is refused. -/
theorem deep_payload_refused :
    (addElement (boxes 63)).ReadsBack ∧
      ofPayload? (addElement (boxes 63)).toJson.compact = none := by
  have hbox : (addElement (boxes 63)).ReadsBack := boxes_readsBack 63
  have hlevels : (addElement (boxes 63)).toJson.levels = 129 := by
    simp only [toJson, fields, Json.levels, Json.membersLevels, boxes_levels]
    omega
  obtain ⟨j, -, hread⟩ :=
    Json.readOutlined?_compact (Json.Outline.whole_covers _) (toJson_writable hbox)
  rw [hlevels, if_neg (by decide)] at hread
  exact ⟨hbox, by rw [ofPayload?, Json.read?, hread, Option.bind_none]⟩

end Command

end PageBuilder
