import PageBuilder.Proofs.Document.Sections
import PageBuilder.Proofs.Json.Printed
import PageBuilder.Proofs.Store.Packing

/-!
Project records read back from JSON, from the object of their fields alone or from one that holds
more. The stored form leaves out what no field of a section needs, and that is nothing of what was
written.
-/

namespace PageBuilder

section Outlines

namespace Json

theorem Outline.coversMembers_iff {o : Outline} {members : List (String × Json)} :
    o.CoversMembers members ↔
      ∀ m ∈ members, ∃ part, o.member? m.1 = some part ∧ part.Covers m.2 := by
  induction members with
  | nil => simp [Outline.CoversMembers]
  | cons m rest ih => rw [Outline.CoversMembers, ih, List.forall_mem_cons]

theorem Outline.member?_fields {names : List String} {parts : List (String × Outline)}
    {name : String} (h : name ∈ names) :
    (Outline.fields names parts).member? name = some ((parts.lookup name).getD .whole) := by
  change (names.map fun n => (n, (parts.lookup n).getD .whole)).lookup name = _
  induction names with
  | nil => cases h
  | cons first rest ih =>
    rw [List.map_cons, List.lookup_cons]
    by_cases hfirst : name = first
    · subst hfirst
      simp only [beq_self_eq_true]
    · simp only [beq_false_of_ne hfirst]
      exact ih ((List.mem_cons.1 h).resolve_left hfirst)

theorem Outline.member?_each (part : Outline) (name : String) :
    (Outline.each part).member? name = some part := rfl

end Json

/-- A record of a position or a size counts as a whole. -/
theorem fields_covers {names : List String} {bs : List (String × Json)}
    (h : ∀ m ∈ bs, m.1 ∈ names) : (Json.Outline.fields names []).Covers (.obj bs) := by
  refine Json.Outline.coversMembers_iff.2 fun m hm => ⟨.whole, ?_, Json.Outline.whole_covers m.2⟩
  rw [Json.Outline.member?_fields (h m hm)]
  rfl

mutual

theorem Element.outlineWithin_covers (e : Element) (depth : Nat) :
    (Element.outlineWithin depth).Covers e.toJson := by
  obtain ⟨node, children⟩ := e
  cases depth with
  | zero => exact Json.Outline.whole_covers _
  | succ depth =>
    rw [Element.toJson_eq]
    refine Json.Outline.coversMembers_iff.2 (List.forall_mem_append.2 ⟨?_, ?_⟩)
    · intro m hm
      simp only [Node.members, List.mem_cons, List.not_mem_nil, or_false] at hm
      rcases hm with rfl | rfl | rfl | rfl | rfl | rfl
      · exact ⟨.whole, rfl, Json.Outline.whole_covers _⟩
      · exact ⟨.whole, rfl, Json.Outline.whole_covers _⟩
      · exact ⟨.whole, rfl, Json.Outline.whole_covers _⟩
      · exact ⟨.whole, rfl, Json.Outline.whole_covers _⟩
      · exact ⟨.fields Position.fieldNames [], rfl, fields_covers (by simp [Position.fieldNames])⟩
      · exact ⟨.fields Size.fieldNames [], rfl, fields_covers (by simp [Size.fieldNames])⟩
    · unfold Forest.members
      split
      · intro m hm
        cases hm
      · intro m hm
        obtain rfl := List.mem_singleton.1 hm
        exact ⟨.each (Element.outlineWithin depth), rfl, Forest.each_covers children depth⟩
termination_by structural e

theorem Forest.each_covers (forest : List Element) (depth : Nat) :
    Json.Outline.CoversItems (.each (Element.outlineWithin depth)) (Forest.toJsonItems forest) := by
  cases forest with
  | nil => trivial
  | cons e rest =>
    exact ⟨Element.outlineWithin_covers e depth, Forest.each_covers rest depth⟩
termination_by structural forest

end

theorem Section.fields_covers (s : Section) {part : Json.Outline}
    (h : (Json.Outline.each part).Covers (Forest.toJson s.elements)) :
    (Json.Outline.fields Section.fieldNames [("elements", .each part)]).Covers s.toJson := by
  refine Json.Outline.coversMembers_iff.2 ?_
  intro m hm
  simp only [List.mem_cons, List.not_mem_nil, or_false] at hm
  rcases hm with rfl | rfl | rfl | rfl | rfl
  · exact ⟨.whole, rfl, Json.Outline.whole_covers _⟩
  · exact ⟨.whole, rfl, Json.Outline.whole_covers _⟩
  · exact ⟨.whole, rfl, Json.Outline.whole_covers _⟩
  · exact ⟨.whole, rfl, Json.Outline.whole_covers _⟩
  · exact ⟨.each part, rfl, h⟩

theorem Section.outline_covers (s : Section) : Section.outline.Covers s.toJson :=
  s.fields_covers (Forest.each_covers s.elements Json.maxNesting)

theorem Sections.outline_covers (m : Sections) :
    (Json.Outline.each Section.outline).Covers m.toJson := by
  refine Json.Outline.coversMembers_iff.2 ?_
  intro e he
  obtain ⟨x, -, rfl⟩ := List.mem_map.1 he
  exact ⟨Section.outline, Json.Outline.member?_each _ _, Section.outline_covers x.2⟩

end Outlines

/-- What is written for a point in time is read as this point. -/
def Instant.ReadsBack (t : Instant) : Prop := ofText? t.text = some t

theorem Instant.ofJson?_like {t : Instant} (h : t.ReadsBack) {j : Json} (hj : j.Like t.toJson) :
    ofJson? j = some t := by
  have hread : ofText? t.text = some t := h
  rw [ofJson?, Json.Like.str? hj, Option.bind_some, hread]

namespace Json

theorem nat?_nat {n : Nat} (hn : n < wordLimit) : (Json.nat n).nat? = some n := by
  have hlow : (0 : Int) ≤ n := Int.natCast_nonneg n
  have hhigh : (n : Int) < (wordLimit : Nat) := Int.ofNat_lt.2 hn
  have hrange : ((0 : Int) ≤ n && (n : Int) < (wordLimit : Nat)) = true := by
    rw [decide_eq_true hlow, decide_eq_true hhigh, Bool.and_self]
  unfold Json.nat? intBetween? Json.nat
  dsimp only
  rw [if_pos hrange]
  rfl

/-- Of two integers that say the same one is the other. -/
theorem Like.nat {n : Nat} {j : Json} (hj : j.Like (.nat n)) : j = .nat n := by
  obtain ⟨m, rfl, hm⟩ := hj
  cases m with
  | float x => cases hm
  | int k =>
    rw [show k = (n : Int) from eq_of_beq hm]
    rfl

theorem Like.nat? {n : Nat} (hn : n < wordLimit) {j : Json} (hj : j.Like (.nat n)) :
    j.nat? = some n := by
  rw [hj.nat, nat?_nat hn]

theorem Like.strings {items : List String} {j : Json} (hj : j.Like (.strings items)) :
    j.list? Json.str? = some items := by
  obtain ⟨js, rfl, hjs⟩ := hj
  change js.mapM Json.str? = some items
  induction items generalizing js with
  | nil =>
    obtain rfl : js = [] := hjs
    rfl
  | cons s rest ih =>
    obtain ⟨x, others, rfl, hx, hothers⟩ := hjs
    rw [List.mapM_cons, Like.str? hx, ih others hothers]
    rfl

theorem strings_writable (items : List String) : (Json.strings items).Writable := by
  refine itemsThroughout_iff.2 fun j hj => ?_
  obtain ⟨s, -, rfl⟩ := List.mem_map.1 hj
  trivial

end Json

namespace ProjectRecord

/-- The record's sections and times read back, and its version fits the range of versions. -/
structure ReadsBack (r : ProjectRecord) : Prop where
  sections : r.sections.ReadsBack
  createdAt : r.createdAt.ReadsBack
  updatedAt : r.updatedAt.ReadsBack
  version : r.version < wordLimit

variable {r : ProjectRecord}

theorem toMembers_keys (r : ProjectRecord) : ∀ m ∈ r.toMembers, m.1 ∈ fieldNames := by
  unfold toMembers
  cases r.thumbnail <;> simp [fieldNames]

theorem toMembers_distinct (r : ProjectRecord) : DistinctKeys r.toMembers := by
  unfold toMembers
  cases r.thumbnail <;> simp [DistinctKeys]

/-- A record is read from an object of its fields and of others beside them. -/
theorem ofJson?_like (now : Instant) (h : r.ReadsBack) {more : List (String × Json)}
    (hmore : ∀ m ∈ more, m.1 ∉ fieldNames) {j : Json} (hj : j.Like (.obj (r.toMembers ++ more))) :
    ∃ q, ofJson? now j = some q ∧ q.stripped.same r.stripped = true ∧
      q.extra = Json.otherFields fieldNames j := by
  obtain ⟨as, rfl, hrest⟩ := hj
  obtain ⟨f, hf, hold⟩ := Json.namedFields?_hold fieldNames ⟨as, rfl, hrest⟩
  have hmem {m : String × Json} (hm : m ∈ r.toMembers) : m ∈ r.toMembers ++ more :=
    List.mem_append_left more hm
  have hid : f.defaulted "id" "" Json.str? = some r.id :=
    hold.defaulted_eq "id" "" (by decide) (hmem (by simp [toMembers])) fun x hx => hx.str?
  have hname : f.required "name" Json.str? = some r.name :=
    hold.required_eq "name" (by decide) (hmem (by simp [toMembers])) fun x hx => hx.str?
  have hdescription : f.defaulted "description" "" Json.str? = some r.description :=
    hold.defaulted_eq "description" "" (by decide) (hmem (by simp [toMembers])) fun x hx => hx.str?
  have htags : f.defaulted "tags" [] (Json.list? Json.str?) = some r.tags :=
    hold.defaulted_eq "tags" [] (by decide) (hmem (by simp [toMembers])) fun x hx => hx.strings
  obtain ⟨sections, hsections, hsame⟩ := hold.required "sections" (by decide)
    (hmem (by simp [toMembers]))
    fun x hx => Sections.ofJsonWith?_like ElementType.ofJson?_readsTypes h.sections hx
  have hcreated : f.defaulted "createdAt" now Instant.ofJson? = some r.createdAt :=
    hold.defaulted_eq "createdAt" now (by decide) (hmem (by simp [toMembers]))
      fun x hx => Instant.ofJson?_like h.createdAt hx
  have hupdated : f.defaulted "updatedAt" now Instant.ofJson? = some r.updatedAt :=
    hold.defaulted_eq "updatedAt" now (by decide) (hmem (by simp [toMembers]))
      fun x hx => Instant.ofJson?_like h.updatedAt hx
  have hversion : f.defaulted "version" 0 Json.nat? = some r.version :=
    hold.defaulted_eq "version" 0 (by decide) (hmem (by simp [toMembers]))
      fun x hx => Json.Like.nat? h.version hx
  have hthumbnail : f.optionalEnd "thumbnail" Json.str? = some r.thumbnail := by
    cases hthumb : r.thumbnail with
    | none =>
      -- neither the fields nor what stands beside them have the name
      apply hold.optionalEnd_absent
      intro hin
      obtain ⟨m, hm, hkey⟩ := List.mem_map.1 hin
      rcases List.mem_append.1 hm with hm | hm
      · simp [toMembers, hthumb] at hm
        rcases hm with rfl | rfl | rfl | rfl | rfl | rfl | rfl | rfl <;>
          simp at hkey
      · exact hmore m hm (by rw [hkey]; decide)
    | some t =>
      obtain ⟨v, hv, rfl⟩ := hold.optionalEnd "thumbnail" (by decide)
        (hmem (by simp [toMembers, hthumb])) (P := fun v => v = t) Json.noConfusion
        fun x hx => ⟨t, Json.Like.str? hx, rfl⟩
      exact hv
  have hread : ofJson? now (.obj as) = some { r with
      sections := sections, extra := Json.otherFields fieldNames (.obj as) } := by
    simp only [ofJson?, hf, hid, hname, hdescription, htags, hcreated, hupdated, hversion,
      hthumbnail, Option.bind_eq_bind, Option.bind_some, Sections.ofJson?, hsections]
    rfl
  refine ⟨_, hread, ?_, rfl⟩
  have hextra : SortedMap.sameBy Json.same SortedMap.empty SortedMap.empty = true := rfl
  simp only [same, stripped, beq_self_eq_true, hsame, hextra, Bool.and_self]

theorem toMembers_writable (h : r.ReadsBack) : ∀ m ∈ r.toMembers, m.2.Writable := by
  have hversion : (Json.nat r.version).Writable := by
    apply Json.Number.readsBack_int
    · exact Int.le_trans (by decide) (Int.natCast_nonneg _)
    · exact Int.ofNat_lt.2 h.version
  intro m hm
  unfold toMembers at hm
  rcases List.mem_append.1 hm with hm | hm
  · simp only [List.mem_cons, List.not_mem_nil, or_false] at hm
    rcases hm with rfl | rfl | rfl | rfl | rfl | rfl | rfl | rfl
    · trivial
    · trivial
    · trivial
    · exact Json.strings_writable r.tags
    · exact Sections.toJson_writable h.sections
    · trivial
    · trivial
    · exact hversion
  · cases hthumb : r.thumbnail with
    | none =>
      rw [hthumb] at hm
      cases hm
    | some t =>
      rw [hthumb] at hm
      obtain rfl := List.mem_singleton.1 hm
      trivial

theorem toJson_eq (hextra : r.extra = .empty) : r.toJson = .obj (r.toMembers ++ []) := by
  rw [toJson, hextra]
  rfl

theorem toJson_writable (h : r.ReadsBack) (hextra : r.extra = .empty) : r.toJson.Writable := by
  rw [toJson_eq hextra, List.append_nil]
  exact ⟨r.toMembers_distinct, Json.membersThroughout_iff.2 (toMembers_writable h)⟩

theorem object_covers (r : ProjectRecord) {part : Json.Outline}
    (h : part.Covers r.sections.toJson) :
    (Json.Outline.object [("sections", part)]).Covers (.obj r.toMembers) := by
  refine Json.Outline.coversMembers_iff.2 fun m hm => ?_
  unfold toMembers at hm
  rcases List.mem_append.1 hm with hm | hm
  · simp only [List.mem_cons, List.not_mem_nil, or_false] at hm
    rcases hm with rfl | rfl | rfl | rfl | rfl | rfl | rfl | rfl
    case inr.inr.inr.inr.inl => exact ⟨part, rfl, h⟩
    all_goals exact ⟨.whole, rfl, Json.Outline.whole_covers _⟩
  · cases hthumb : r.thumbnail with
    | none =>
      rw [hthumb] at hm
      cases hm
    | some t =>
      rw [hthumb] at hm
      obtain rfl := List.mem_singleton.1 hm
      exact ⟨.whole, rfl, Json.Outline.whole_covers _⟩

theorem outline_covers (hextra : r.extra = .empty) : outline.Covers r.toJson := by
  rw [toJson_eq hextra, List.append_nil]
  exact r.object_covers (Sections.outline_covers r.sections)

/-- An object of a record's fields alone has no others. -/
theorem otherFields_like (h : Json.Like j (.obj r.toMembers)) :
    Json.otherFields fieldNames j = .empty := by
  obtain ⟨as, rfl, -, hkeys, -⟩ := h
  have hnone : (as.filter fun m => !fieldNames.contains m.1) = [] := by
    rw [List.filter_eq_nil_iff]
    intro m hm hother
    obtain ⟨member, hmember, hkey⟩ :=
      List.mem_map.1 (hkeys.mem_iff.1 (List.mem_map.2 ⟨m, hm, rfl⟩))
    have hin := r.toMembers_keys member hmember
    rw [hkey] at hin
    simp [hin] at hother
  rw [Json.otherFields, hnone]
  rfl

/-- The stored form of a record is read as an equal record, unless it is too deep. -/
theorem decode_encode {p : Packing} (hp : p.Lossless) (level : Int) (h : r.ReadsBack)
    (hextra : r.extra = .empty) (now : Instant) :
    if r.toJson.levels ≤ Json.maxNesting then
      ∃ q, decode p now (r.encode p level) = .ok q ∧ q.same r = true
    else decode p now (r.encode p level) = .error .noRecord := by
  have hwritable := toJson_writable h hextra
  obtain ⟨j, hsame, hread⟩ := Json.readOutlined?_compact (outline_covers hextra) hwritable
  have hlike := Json.like_of_same j r.toJson hsame hwritable
  rw [toJson_eq hextra] at hlike
  obtain ⟨q, hq, hequal, hqextra⟩ := ofJson?_like now h (List.forall_mem_nil _) hlike
  rw [List.append_nil] at hlike
  have hstripped (p : ProjectRecord) (hp : p.extra = .empty) : p.stripped = p := by
    rw [stripped, ← hp]
  rw [otherFields_like hlike] at hqextra
  rw [hstripped q hqextra, hstripped r hextra] at hequal
  rw [decode_encode_eq hp, ofText?, hread]
  split
  · exact ⟨q, by rw [Option.bind_some, hq], hequal⟩
  · rfl

theorem eq_empty_of_sameBy {α : Type} {eq : α → α → Bool} {m : SortedMap α}
    (h : m.sameBy eq .empty = true) : m = .empty := by
  rw [SortedMap.sameBy, Bool.and_eq_true, beq_iff_eq] at h
  exact SortedMap.ext (List.length_eq_zero_iff.1 h.1)

/-- A record without sections is written without any number but its version. -/
theorem eq_of_same {q : ProjectRecord} (hsections : r.sections = .empty) (hextra : r.extra = .empty)
    (h : q.same r = true) : q = r := by
  obtain ⟨id, name, description, tags, sections, created, updated, version, thumbnail, extra⟩ := r
  obtain rfl : sections = .empty := hsections
  obtain rfl : extra = .empty := hextra
  simp only [same, Sections.same, Bool.and_eq_true, beq_iff_eq, and_assoc] at h
  obtain ⟨rfl, rfl, rfl, rfl, hempty, rfl, rfl, rfl, rfl, hnone⟩ := h
  rw [← eq_empty_of_sameBy hempty, ← eq_empty_of_sameBy hnone]

end ProjectRecord

end PageBuilder
