import PageBuilder.Proofs.Document.Elements
import PageBuilder.Section

/-!
Sections read back from JSON, each under its key.
-/

namespace PageBuilder

/-- A record of members that can all be read is read member by member. -/
theorem mapM_members {α β : Type} (read : α → Option β) (as : List (String × α))
    (h : ∀ m ∈ as, ∃ b, read m.2 = some b) :
    ∃ bs, (as.mapM fun m => (read m.2).map fun b => (m.1, b)) = some bs ∧
      bs.map Prod.fst = as.map Prod.fst ∧
      ∀ key b, (key, b) ∈ bs → ∃ a, (key, a) ∈ as ∧ read a = some b := by
  induction as with
  | nil => exact ⟨[], rfl, rfl, fun _ _ hb => nomatch hb⟩
  | cons m rest ih =>
    obtain ⟨hfirst, hrest⟩ := List.forall_mem_cons.1 h
    obtain ⟨b, hb⟩ := hfirst
    obtain ⟨bs, hbs, hkeys, hread⟩ := ih hrest
    refine ⟨(m.1, b) :: bs, ?_, by rw [List.map_cons, List.map_cons, hkeys], ?_⟩
    · rw [List.mapM_cons, hb, hbs]
      rfl
    · intro key c hc
      rcases List.mem_cons.1 hc with heq | hc
      · obtain ⟨rfl, rfl⟩ := Prod.mk.inj heq
        exact ⟨m.2, List.mem_cons_self .., hb⟩
      · obtain ⟨a, ha, hac⟩ := hread key c hc
        exact ⟨a, List.mem_cons_of_mem m ha, hac⟩

variable {readType : Json → Option ElementType}

namespace Section

/-- Every element of the section reads back. -/
def ReadsBack (s : Section) : Prop := Forest.ReadsBack s.elements

theorem ofJsonWith?_like (hrt : ReadsTypes readType) {s : Section} (h : s.ReadsBack) {j : Json}
    (hj : j.Like s.toJson) : ∃ t, ofJsonWith? readType j = some t ∧ t.same s = true := by
  obtain ⟨f, hf, hold⟩ := hj.fields fieldNames
  have hid : f.required "id" Json.str? = some s.id :=
    hold.required_eq "id" (by decide) (by simp) fun x hx => hx.str?
  have hname : f.required "name" Json.str? = some s.name :=
    hold.required_eq "name" (by decide) (by simp) fun x hx => hx.str?
  have hslug : f.required "slug" Json.str? = some s.slug :=
    hold.required_eq "slug" (by decide) (by simp) fun x hx => hx.str?
  have hhome : f.defaulted "isHome" false Json.bool? = some s.isHome :=
    hold.defaulted_eq "isHome" false (by decide) (by simp) fun x hx => hx.bool?
  obtain ⟨elements, helements, hsame⟩ := hold.defaulted "elements" [] (by decide) (by simp)
    fun x hx => Forest.ofJsonWith?_like hrt h hx
  refine ⟨⟨s.id, s.name, s.slug, s.isHome, elements⟩, ?_, ?_⟩
  · simp only [ofJsonWith?, hf, hid, hname, hslug, hhome, helements, Option.bind_eq_bind,
      Option.bind_some]
    rfl
  · simp only [same, beq_self_eq_true, hsame, Bool.and_self]

theorem toJson_writable {s : Section} (h : s.ReadsBack) : s.toJson.Writable := by
  refine ⟨by simp [DistinctKeys], trivial, trivial, trivial, trivial, ?_, trivial⟩
  exact Forest.toJson_writable h

end Section

namespace Sections

/-- Every section of the document reads back. -/
def ReadsBack (m : Sections) : Prop := ∀ e ∈ m.entries, e.2.ReadsBack

theorem toJson_eq (m : Sections) :
    m.toJson = .obj (m.entries.map fun e => (e.1, e.2.toJson)) := rfl

theorem ofJsonWith?_like (hrt : ReadsTypes readType) {m : Sections} (h : m.ReadsBack) {j : Json}
    (hj : j.Like m.toJson) : ∃ p, ofJsonWith? readType j = some p ∧ p.same m = true := by
  rw [toJson_eq] at hj
  obtain ⟨as, rfl, hdistinct, hkeys, has⟩ := hj
  rw [List.map_map] at hkeys
  -- each member read is the one that some section was written as
  have hread (key : String) (x : Json) (hx : (key, x) ∈ as) :
      ∃ s, (key, s) ∈ m.entries ∧
        ∃ t, Section.ofJsonWith? readType x = some t ∧ t.same s = true := by
    have hkey : key ∈ m.entries.map Prod.fst :=
      hkeys.mem_iff.1 (List.mem_map.2 ⟨(key, x), hx, rfl⟩)
    obtain ⟨⟨k, s⟩, hs, rfl⟩ := List.mem_map.1 hkey
    have hwritten : (k, s.toJson) ∈ m.entries.map fun e => (e.1, e.2.toJson) :=
      List.mem_map.2 ⟨(k, s), hs, rfl⟩
    obtain ⟨y, hy, hlike⟩ := Json.likeMembers_iff.1 has k s.toJson hwritten
    obtain rfl : x = y := Option.some.inj ((lookup_of_mem hdistinct hx).symm.trans hy)
    exact ⟨s, hs, Section.ofJsonWith?_like hrt (h (k, s) hs) hlike⟩
  obtain ⟨found, hfound, hfoundKeys, hall⟩ := mapM_members
    (Section.ofJsonWith? readType) as fun e he => by
      obtain ⟨s, -, t, ht, -⟩ := hread e.1 e.2 he
      exact ⟨t, ht⟩
  have hfoundDistinct : DistinctKeys found := by
    rw [DistinctKeys, hfoundKeys]
    exact hdistinct
  have hperm := SortedMap.ofList_perm hfoundDistinct
  refine ⟨SortedMap.ofList found, by simp only [ofJsonWith?, hfound, Option.map_some], ?_⟩
  apply SortedMap.sameBy_of_lookup
  · have hmap := hperm.map Prod.fst
    rw [hfoundKeys] at hmap
    exact hmap.trans hkeys
  · intro key s hs
    have hkey : key ∈ found.map Prod.fst := by
      rw [hfoundKeys]
      exact hkeys.mem_iff.2 (List.mem_map.2 ⟨(key, s), hs, rfl⟩)
    obtain ⟨⟨k, t⟩, ht, rfl⟩ := List.mem_map.1 hkey
    refine ⟨t, SortedMap.get?_eq_some_iff.2 (hperm.mem_iff.2 ht), ?_⟩
    obtain ⟨x, hx, hxt⟩ := hall k t ht
    obtain ⟨other, hother, u, hu, hsame⟩ := hread k x hx
    obtain rfl : t = u := Option.some.inj (hxt.symm.trans hu)
    obtain rfl : s = other := SortedMap.eq_of_get? (SortedMap.get?_eq_some_iff.2 hother) hs
    exact hsame

theorem toJson_writable {m : Sections} (h : m.ReadsBack) : m.toJson.Writable := by
  refine ⟨SortedMap.ascending _ |>.distinctKeys, Json.membersThroughout_iff.2 ?_⟩
  intro e he
  obtain ⟨x, hx, rfl⟩ := List.mem_map.1 he
  exact Section.toJson_writable (h x hx)

end Sections

end PageBuilder
