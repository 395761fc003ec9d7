import PageBuilder.Proofs.Html.Boxes
import PageBuilder.Proofs.Html.Compact
import PageBuilder.Proofs.Html.Nesting

/-!
The order of the sections of a document. The home section comes first and is the only one that is
shown; behind it come the other sections marked home and then the rest, each in the order of their
ids. A reader that keeps account of open tags finds the blocks of the sections in this order right
inside the body, and the router knows the same sections.
-/

namespace PageBuilder

namespace Sections

section Order

variable {m : Sections}

theorem before_trans (a b c : Section) (hab : before a b = true) (hbc : before b c = true) :
    before a c = true := by
  unfold before at hab hbc ⊢
  cases ha : a.isHome <;> cases hb : b.isHome <;> cases hc : c.isHome <;>
    simp_all [-String.not_le]
  · exact String.le_trans hab hbc
  · exact String.le_trans hab hbc

theorem before_total (a b : Section) : (before a b || before b a) = true := by
  unfold before
  cases ha : a.isHome <;> cases hb : b.isHome <;> simp
  · exact String.le_total ..
  · exact String.le_total ..

/-- Sections that come before each other carry the same mark and the same id. -/
theorem before_antisymm {a b : Section} (hab : before a b = true) (hba : before b a = true) :
    a.isHome = b.isHome ∧ a.id = b.id := by
  unfold before at hab hba
  by_cases hmark : a.isHome = b.isHome
  · rw [if_pos hmark, decide_eq_true_iff] at hab
    rw [if_pos hmark.symm, decide_eq_true_iff] at hba
    exact ⟨hmark, String.le_antisymm hab hba⟩
  · rw [if_neg hmark] at hab
    rw [if_neg (Ne.symm hmark)] at hba
    exact absurd (hab.trans hba.symm) hmark

theorem KeyedById.values_ascending (h : m.KeyedById) :
    m.values.Pairwise fun a b => a.id < b.id := by
  refine List.pairwise_map.2 (m.ascending.imp_of_mem fun ha hb hlt => ?_)
  rwa [← h _ ha, ← h _ hb]

theorem KeyedById.eq_of_id (h : m.KeyedById) {a b : Section} (ha : a ∈ m.values)
    (hb : b ∈ m.values) (hid : a.id = b.id) : a = b := by
  have hget {s : Section} (hs : s ∈ m.values) : m.get? s.id = some s := by
    obtain ⟨e, he, rfl⟩ := List.mem_map.1 hs
    rw [← h e he]
    exact SortedMap.get?_eq_some_iff.2 he
  have hsame := hget ha
  rw [hid, hget hb] at hsame
  exact (Option.some.inj hsame).symm

/-- The marked sections come first and then the others, each as they stand in the map. -/
theorem KeyedById.ordered_eq (h : m.KeyedById) :
    m.ordered = m.values.filter Section.isHome ++ m.values.filter fun s => !s.isHome := by
  have hparts : (m.values.filter Section.isHome ++
      m.values.filter fun s => !s.isHome).Pairwise fun a b => before a b = true := by
    have hsame {a b : Section} (hmark : a.isHome = b.isHome) (hlt : a.id < b.id) :
        before a b = true := by
      rw [before, if_pos hmark]
      exact decide_eq_true (String.not_lt.1 (String.lt_asymm hlt))
    refine List.pairwise_append.2 ⟨?_, ?_, fun a ha b hb => ?_⟩
    · refine (h.values_ascending.filter _).imp_of_mem fun ha hb hlt => hsame ?_ hlt
      rw [List.of_mem_filter ha, List.of_mem_filter hb]
    · refine (h.values_ascending.filter _).imp_of_mem fun ha hb hlt => hsame ?_ hlt
      simpa using (List.of_mem_filter ha).trans (List.of_mem_filter hb).symm
    · have hmarked := List.of_mem_filter ha
      have hunmarked : b.isHome = false := by simpa using List.of_mem_filter hb
      rw [before, if_neg (by rw [hmarked, hunmarked]; decide), hmarked]
  -- two lists in order that hold the same sections are equal
  have hperm := List.mergeSort_perm m.values before
  have hboth := hperm.trans (List.filter_append_perm Section.isHome m.values).symm
  refine List.Perm.eq_of_pairwise (fun a b ha hb hab hba => ?_)
    (List.pairwise_mergeSort before_trans before_total m.values) hparts hboth
  exact h.eq_of_id (hperm.subset ha) (hperm.subset (hboth.symm.subset hb))
    (before_antisymm hab hba).2

/-- The home section is the first one. -/
theorem KeyedById.head?_ordered (h : m.KeyedById) : m.ordered.head? = m.home? := by
  rw [h.ordered_eq, List.head?_append, List.head?_filter, home?]
  cases hfind : m.values.find? Section.isHome with
  | some s => rfl
  | none =>
    have hall : m.values.filter (fun s => !s.isHome) = m.values := by
      refine List.filter_eq_self.2 fun s hs => ?_
      simpa using List.find?_eq_none.1 hfind s hs
    rw [hall]

/-- The home section, then the other marked sections, then those that are not marked. -/
theorem KeyedById.ordered_split (h : m.KeyedById) {home : Section} (hhome : m.home? = some home) :
    ∃ marked unmarked, m.ordered = home :: (marked ++ unmarked) ∧
      (∀ s ∈ marked, s.isHome = true) ∧ (∀ s ∈ unmarked, s.isHome = false) ∧
      marked.Pairwise (fun a b => a.id < b.id) ∧ unmarked.Pairwise fun a b => a.id < b.id := by
  have hhead := h.head?_ordered
  rw [hhome, h.ordered_eq] at hhead
  have hmarked : ∀ s ∈ m.values.filter Section.isHome, s.isHome = true :=
    fun s hs => List.of_mem_filter hs
  have hunmarked : ∀ s ∈ m.values.filter fun s => !s.isHome, s.isHome = false :=
    fun s hs => by simpa using List.of_mem_filter hs
  have hbefore := h.values_ascending.filter Section.isHome
  have hbehind := h.values_ascending.filter fun s => !s.isHome
  rw [h.ordered_eq]
  generalize m.values.filter Section.isHome = marked at *
  generalize (m.values.filter fun s => !s.isHome) = unmarked at *
  cases marked with
  | cons first rest =>
    obtain rfl : first = home := by simpa using hhead
    exact ⟨rest, unmarked, rfl, fun s hs => hmarked s (List.mem_cons_of_mem _ hs), hunmarked,
      hbefore.of_cons, hbehind⟩
  | nil =>
    cases unmarked with
    | nil => cases hhead
    | cons first rest =>
      obtain rfl : first = home := by simpa using hhead
      exact ⟨[], rest, rfl, List.forall_mem_nil _,
        fun s hs => hunmarked s (List.mem_cons_of_mem _ hs), .nil, hbehind.of_cons⟩

theorem KeyedById.ordered_ids (h : m.KeyedById) : m.ordered.Pairwise fun a b => a.id ≠ b.id := by
  refine ((List.mergeSort_perm m.values before).pairwise_iff Ne.symm).2 ?_
  exact h.values_ascending.imp ne_of_lt

theorem exists_home? (h : m.isEmpty = false) : ∃ home, m.home? = some home := by
  obtain ⟨e, he⟩ := exists_homeEntry? (List.isEmpty_eq_false_iff.1 h)
  exact ⟨e.2, by rw [home?_eq, he]; rfl⟩

end Order

end Sections

/-- The value of an attribute of a start tag, with its entities decoded. -/
def Token.value? (name : String) (t : Token) : Option String :=
  (t.attr? name).map fun value => String.ofList (decodeEntities value.toList)

/-- The id and the slug of the section that a start tag opens the block of, with the first
declaration of its style. -/
def Token.sectionBlock? (t : Token) : Option (String × String × String) := do
  let id ← t.value? "data-section-id"
  let slug ← t.value? "data-slug"
  let style ← t.value? "style"
  return (id, slug, String.ofList (style.toList.takeWhile (· ≠ ';')))

section Blocks

variable {ctx : DocumentContext}

/-- The start tag of the block of a section. -/
def sectionTag (ctx : DocumentContext) (visible : Bool) (s : Section) : Token :=
  .startTag "div" ([attr "class" "pc-section", attr "id" ("section-" ++ s.slug),
    attr "data-section-id" s.id, attr "data-slug" s.slug,
    attr "style" (sectionStyle ctx visible s).css].map Attr.written)

theorem sectionTag_block (ctx : DocumentContext) (visible : Bool) (s : Section) :
    (sectionTag ctx visible s).sectionBlock? =
      some (s.id, s.slug, if visible then "display: block" else "display: none") := by
  have hread (text : String) : String.ofList (decodeEntities (escapeHtml text).toList) = text := by
    rw [decodeEntities_escapeHtml, String.ofList_toList]
  have hid : (sectionTag ctx visible s).value? "data-section-id" = some s.id :=
    congrArg some (hread s.id)
  have hslug : (sectionTag ctx visible s).value? "data-slug" = some s.slug :=
    congrArg some (hread s.slug)
  have hstyle : (sectionTag ctx visible s).value? "style" =
      some (sectionStyle ctx visible s).css := congrArg some (hread _)
  rw [Token.sectionBlock?, hid, hslug, hstyle, sectionStyle_css]
  generalize formatPx ctx.options.canvasWidth = width
  generalize formatPx (sectionHeight s) = height
  cases visible <;> simp

/-- The blocks of sections stand right inside the body, one for each section. -/
theorem sectionFragments_blocks (style : LayoutStyle) {home : Option String} {ss : List Section}
    {f : Fragment} (h : sectionFragments ctx home ss = .ok f) :
    (f.markup.flatMap fun x => childTags ["body", "html"] ["body", "html"] (x.tokens style 2)) =
      ss.map fun s => sectionTag ctx (home == some s.id) s := by
  induction ss generalizing f with
  | nil =>
    cases h
    rfl
  | cons s rest ih =>
    obtain ⟨first, hfirst, hrest⟩ := bind_ok h
    obtain ⟨others, hothers, hboth⟩ := bind_ok hrest
    cases hboth
    obtain ⟨inner, hinner, hblock⟩ := bind_ok hfirst
    cases hblock
    -- the elements of the section are inside of its block, one level further down
    have hsound := sectionFragment_sound hfirst _ (List.mem_singleton_self _)
    rw [Fragment.append, List.flatMap_append, ih hothers, Fragment.inBlock, List.flatMap_singleton,
      childTags_block_outside hsound (by decide)]
    rfl

theorem scriptsHtml_tags (style : LayoutStyle) (scripts : List ScriptBlock) :
    ((scriptsHtml scripts).flatMap fun x =>
      childTags ["body", "html"] ["body", "html"] (x.tokens style 2)) =
        scripts.map fun b =>
          .startTag "script" [(attr "data-module" b.behavior.name).written] := by
  rw [scriptsHtml, List.flatMap_map]
  simp only [childTags_script, beq_self_eq_true, if_true, List.map_eq_flatMap]

end Blocks

section Document

variable {sections : Sections} {options : ExportOptions} {html : String}

/-- In the body of a document there are the blocks of its sections and the scripts. -/
theorem documentTokens_children {ctx : DocumentContext} {home : Option String} {ss : List Section}
    {body : Fragment} (h : sectionFragments ctx home ss = .ok body) :
    childTags ["body", "html"] [] (documentTokens sections options body) =
      (ss.map fun s => sectionTag ctx (home == some s.id) s) ++
        (routerScript sections :: body.scripts).map fun b =>
          .startTag "script" [(attr "data-module" b.behavior.name).written] := by
  have hdocument : (documentHtml sections options body).Sound true :=
    documentHtml_sound (sectionFragments_sound h)
  have hinner := hdocument.of_block.2
  obtain ⟨hhead, hbody⟩ := List.forall_mem_cons.1 hinner
  have hbody := hbody _ (List.mem_singleton_self _)
  -- the head stands beside the body
  have hnothing : childTags ["body", "html"] ["html"]
      ((headHtml options.title).tokens options.layout 1) = [] :=
    childTags_block_outside hhead (by decide) 1
  rw [documentTokens, (closed_charTokens _).childTags_append, childTags_chars, List.nil_append,
    documentHtml, childTags_block hdocument, childTags_all hinner, List.flatMap_cons, hnothing,
    List.flatMap_singleton, childTags_block hbody, childTags_all hbody.of_block.2,
    List.flatMap_append, sectionFragments_blocks _ h, scriptsHtml_tags]
  rfl

/-- Scripts are no sections. -/
theorem scriptTag_block (name : String) :
    (Token.startTag "script" [(attr "data-module" name).written]).sectionBlock? = none := rfl

/-- Of the sections with different ids only the one with the first id is shown. -/
theorem sectionTags_blocks (ctx : DocumentContext) {first : Section} {rest : List Section}
    (h : (first :: rest).Pairwise fun a b => a.id ≠ b.id) :
    ((first :: rest).map fun s => sectionTag ctx (some first.id == some s.id) s).filterMap
        Token.sectionBlock? =
      (first.id, first.slug, "display: block") ::
        rest.map fun s => (s.id, s.slug, "display: none") := by
  have hhidden : ∀ s ∈ rest, (some first.id == some s.id) = false := fun s hs =>
    beq_eq_false_iff_ne.2 fun hsame => List.rel_of_pairwise_cons h hs (Option.some.inj hsame)
  have hrest : (rest.map fun s => sectionTag ctx (some first.id == some s.id) s).filterMap
      Token.sectionBlock? = rest.map fun s => (s.id, s.slug, "display: none") := by
    rw [List.filterMap_map, ← List.filterMap_eq_map]
    refine List.filterMap_congr fun s hs => ?_
    rw [Function.comp_apply, hhidden s hs, sectionTag_block]
    rfl
  rw [List.map_cons, beq_self_eq_true, List.filterMap_cons, sectionTag_block, hrest]
  rfl

theorem routerScript_config (sections : Sections) :
    (routerScript sections).config.get? "sections" = some (.arr (sections.ordered.map fun s =>
        .obj [("id", .str s.id), ("slug", .str s.slug)])) ∧
      (routerScript sections).config.get? "home" =
        some (.option .str (sections.home?.map Section.id)) := by
  have hkeys : DistinctKeys [("sections", Json.arr (sections.ordered.map fun s =>
      .obj [("id", .str s.id), ("slug", .str s.slug)])),
      ("home", .option .str (sections.home?.map Section.id))] := by
    rw [DistinctKeys]
    simp
  rw [routerScript, ScriptBlock.ofFields, Json.get?_ofMap, Json.get?_ofMap]
  exact ⟨(SortedMap.get?_ofList hkeys).2 (List.mem_cons_self ..),
    (SortedMap.get?_ofList hkeys).2 (List.mem_cons_of_mem _ (List.mem_singleton_self _))⟩

/-- The blocks of a document are those of its sections, and only the first one is shown. It is that
of the home section; then come the other sections that are marked home and then the rest, both in
the order of their ids. The router's configuration lists the sections in the same order and starts
with the one that is shown. If no tag can begin in the indentation, this is what a reader sees of
the text, with the blocks right inside the body. -/
theorem document_shows_home_first (hkeyed : sections.KeyedById)
    (h : compileDocument sections options = .ok html) :
    ∃ (home : Section) (marked unmarked : List Section) (body : Fragment) (tokens : List Token),
      sections.home? = some home ∧ sections.ordered = home :: (marked ++ unmarked) ∧
      (home :: (marked ++ unmarked)).Perm sections.values ∧
      (∀ s ∈ marked, s.isHome = true) ∧ (∀ s ∈ unmarked, s.isHome = false) ∧
      marked.Pairwise (fun a b => a.id < b.id) ∧ unmarked.Pairwise (fun a b => a.id < b.id) ∧
      sectionFragments ⟨sections, options⟩ (sections.home?.map Section.id) sections.ordered =
        .ok body ∧
      html = doctype ++ (options.layout.behind ++
        writePieces options.layout ((documentHtml sections options body).pieces 0)) ∧
      tokens = documentTokens sections options body ∧
      ((∀ c ∈ options.indent.toList, c ≠ '<') →
        ∃ rest, html = doctype ++ rest ∧ readTokens .content rest.toList = some tokens) ∧
      (childTags ["body", "html"] [] tokens).filterMap Token.sectionBlock? =
        (home.id, home.slug, "display: block") ::
          (marked ++ unmarked).map (fun s => (s.id, s.slug, "display: none")) ∧
      tokens.filterMap Token.raw? = stylesheetRead options.layout ::
        (routerScript sections :: body.scripts).map (ScriptBlock.read options.layout) ∧
      (routerScript sections).config.get? "sections" =
        some (.arr ((home :: (marked ++ unmarked)).map fun s =>
          .obj [("id", .str s.id), ("slug", .str s.slug)])) ∧
      (routerScript sections).config.get? "home" = some (.str home.id) := by
  have hsections : sections.isEmpty = false := by
    refine Bool.eq_false_iff.2 fun hempty => ?_
    rw [compileDocument_empty hempty] at h
    cases h
  obtain ⟨home, hhome⟩ := Sections.exists_home? hsections
  obtain ⟨marked, unmarked, hordered, hmarked, hunmarked, hfirst, hsecond⟩ :=
    hkeyed.ordered_split hhome
  obtain ⟨body, hbody, hhtml⟩ := compileDocument_eq h
  have hsound := sectionFragments_sound hbody
  obtain ⟨hroutes, hshown⟩ := routerScript_config sections
  refine ⟨home, marked, unmarked, body, _, hhome, hordered,
    hordered ▸ List.mergeSort_perm .., hmarked, hunmarked, hfirst, hsecond, hbody, hhtml, rfl,
    fun hindent => ⟨_, hhtml, ?_⟩, ?_, documentTokens_raw hsound, hordered ▸ hroutes, ?_⟩
  · exact documentTokens_read hsound hindent
  · have hids := hkeyed.ordered_ids
    rw [hordered] at hids
    rw [hhome, hordered] at hbody
    rw [documentTokens_children hbody, List.filterMap_append, Option.map_some,
      sectionTags_blocks _ hids, List.filterMap_map, List.filterMap_eq_nil_iff.2,
      List.append_nil]
    exact fun b _ => scriptTag_block b.behavior.name
  · rw [hshown, hhome]
    rfl

/-- Two of four sections are marked. -/
def markedSections : Sections :=
  SortedMap.ofList [("a", .new "a" "About"), ("b", .home "b" "Blog"), ("c", .home "c" "Contact"),
    ("d", .new "d" "Docs")]

theorem document_shows_home_first_marked :
    markedSections.KeyedById ∧
      ∃ html rest tokens, compileDocument markedSections {} = .ok html ∧
        html = doctype ++ rest ∧ readTokens .content rest.toList = some tokens ∧
        (childTags ["body", "html"] [] tokens).filterMap Token.sectionBlock? =
          [("b", "blog", "display: block"), ("c", "contact", "display: none"),
            ("a", "about", "display: none"), ("d", "docs", "display: none")] ∧
        (routerScript markedSections).config.get? "home" = some (.str "b") := by
  have hkeyed : markedSections.KeyedById := by decide +kernel
  have hok : (compileDocument markedSections {}).isOk = true := by
    rw [compileDocument_map (by decide +kernel), hkeyed.ordered_eq]
    decide +kernel
  obtain ⟨html, h⟩ := exists_document hok
  obtain ⟨home, marked, unmarked, body, tokens, -, hordered, -, -, -, -, -, -, -, -, hread, hblocks,
    -, -, hshown⟩ := document_shows_home_first hkeyed h
  obtain ⟨rest, hhtml, htokens⟩ := hread (by decide)
  have hsections : markedSections.ordered.map (fun s => (s.id, s.slug)) =
      [("b", "blog"), ("c", "contact"), ("a", "about"), ("d", "docs")] := by
    rw [hkeyed.ordered_eq]
    decide +kernel
  rw [hordered, List.map_cons, List.cons.injEq, Prod.mk.injEq] at hsections
  obtain ⟨⟨hid, hslug⟩, hothers⟩ := hsections
  have hhidden := congrArg (List.map fun e => (e.1, e.2, "display: none")) hothers
  rw [List.map_map] at hhidden
  refine ⟨hkeyed, html, rest, tokens, h, hhtml, htokens, ?_, hid ▸ hshown⟩
  rw [hblocks, hid, hslug]
  exact congrArg (List.cons _) hhidden

end Document

end PageBuilder
