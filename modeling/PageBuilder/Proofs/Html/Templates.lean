import PageBuilder.Html.Document
import PageBuilder.Proofs.Decimal.Truncation
import PageBuilder.Proofs.Html.Markup
import PageBuilder.Machine

/-!
The templates of elements write sound markup only, whatever the props, the styles and the options
say.
-/

namespace PageBuilder

/-- The fragment's markup is sound and without scripts. -/
def Fragment.Sound (f : Fragment) : Prop := ∀ x ∈ f.markup, x.Sound false

section Parts

variable {tag : String} {attrs more : List Attr}

/-- Attributes that are neither addresses nor code may have any values. -/
theorem plain_sound (h : ∀ a ∈ attrs, a.name ∈ plainAttrs) : ∀ a ∈ attrs, a.Sound :=
  fun a ha => .plain a.value (h a ha)

theorem boxAttrs_sound (n : Node) (placement : Placement) (extra : Declarations)
    (h : ∀ a ∈ attrs, a.Sound) : ∀ a ∈ boxAttrs n placement extra attrs, a.Sound := by
  have hname : ∀ a ∈ [attr "id" ("pc-" ++ n.id),
      attr "class" ("pc-el pc-" ++ typeClass n.type ++ formClass n.type)], a.Sound :=
    plain_sound (by simp [attr, plainAttrs])
  have hstyle : (attr "style" (boxStyle n placement extra).css).Sound := .plain _ (by decide)
  refine List.forall_mem_append.2 ⟨List.forall_mem_append.2 ⟨hname, h⟩, ?_⟩
  exact List.forall_mem_singleton.2 hstyle

theorem sectionLinkAttrs_sound (ctx : DocumentContext) (id : String) :
    ∀ a ∈ sectionLinkAttrs ctx id, a.Sound := by
  have hhref (target : String) : (attr "data-href" target).Sound := .plain _ (by decide)
  unfold sectionLinkAttrs
  split
  · next s hs =>
    exact List.forall_mem_cons.2 ⟨hhref _, List.forall_mem_singleton.2 (.opensSection s.id)⟩
  · exact List.forall_mem_singleton.2 (hhref _)

theorem htmlIf_sound {raw : Bool} {c : Bool} {h : List Html}
    (hsound : ∀ x ∈ h, x.Sound raw) : ∀ x ∈ htmlIf c h, x.Sound raw := by
  unfold htmlIf
  split
  · exact hsound
  · exact List.forall_mem_nil _

theorem textSpan_sound {raw : Bool} (htag : tag ∈ pairedTags) (hattrs : ∀ a ∈ attrs, a.Sound)
    (s : String) : (textSpan tag attrs s).Sound raw :=
  .line (.span htag hattrs (List.forall_mem_singleton.2 (.text s)))

theorem spanUnlessEmpty_sound {raw : Bool} (htag : tag ∈ pairedTags)
    (hattrs : ∀ a ∈ attrs, a.Sound) (s : String) :
    ∀ x ∈ spanUnlessEmpty tag attrs s, x.Sound raw :=
  htmlIf_sound (List.forall_mem_singleton.2 (textSpan_sound htag hattrs s))

theorem divBlock_sound {raw : Bool} (cls : String) {children : List Html}
    (h : ∀ x ∈ children, x.Sound raw) : (divBlock cls children).Sound raw :=
  .block (by decide) (plain_sound (by simp [attr, plainAttrs])) h

/-- An image shows an address that has been checked. -/
theorem img_sound (url : String) (slash : Bool) (h : ∀ a ∈ more, a.name ∈ plainAttrs) :
    (Inline.void "img" (attr "src" (safeUrl url) :: more) slash).Sound :=
  .void slash (by decide)
    (List.forall_mem_cons.2 ⟨.address url (by decide), plain_sound h⟩)

end Parts

section Cards

variable (ctx : DocumentContext)

theorem cardParts_sound (image alt title content : String) :
    ∀ x ∈ cardParts image alt title content, x.Sound false := by
  unfold cardParts
  refine List.forall_mem_append.2 ⟨htmlIf_sound ?_, ?_⟩
  · refine List.forall_mem_singleton.2 (.line (.span (by decide) ?_ ?_))
    · exact plain_sound (by simp [attr, plainAttrs])
    · exact List.forall_mem_singleton.2 (img_sound image true (by simp [attr, plainAttrs]))
  · refine List.forall_mem_singleton.2 (divBlock_sound _ (List.forall_mem_append.2 ⟨?_, ?_⟩))
    · exact spanUnlessEmpty_sound (by decide) (plain_sound (by simp [attr, plainAttrs])) title
    · exact spanUnlessEmpty_sound (by decide) (plain_sound (by simp [attr, plainAttrs])) content

theorem arrows_sound (kind : String) : ∀ x ∈ arrows kind, x.Sound false := by
  have harrow (cls label entity : String) (h : entity ∈ templateEntities) :
      (Html.line (.span "button" [attr "class" cls, attr "type" "button", attr "aria-label" label]
        [.entity entity])).Sound false :=
    .line (.span (by decide) (plain_sound (by simp [attr, plainAttrs]))
      (List.forall_mem_singleton.2 (.entity h)))
  unfold arrows
  refine List.forall_mem_cons.2 ⟨harrow _ _ _ (by decide), ?_⟩
  exact List.forall_mem_singleton.2 (harrow _ _ _ (by decide))

theorem cardButton_sound (card : Json) : ∀ x ∈ cardButton ctx card, x.Sound false := by
  unfold cardButton
  refine spanUnlessEmpty_sound (by decide) (List.forall_mem_append.2 ⟨?_, ?_⟩) _
  · exact plain_sound (by simp [attr, plainAttrs])
  · cases LinkTarget.ofMembers card.get? with
    | toSection id => exact sectionLinkAttrs_sound ctx id
    | toUrl url => exact List.forall_mem_singleton.2 (.opensWindow url)
    | nowhere => exact List.forall_mem_nil _

theorem cardItem_sound (card : Json) : (cardItem ctx card).Sound false := by
  refine divBlock_sound _ (List.forall_mem_singleton.2 (divBlock_sound _ ?_))
  exact List.forall_mem_append.2 ⟨cardParts_sound _ _ _ _, cardButton_sound ctx card⟩

end Cards

section Widgets

variable (ctx : DocumentContext) (n : Node) (placement : Placement)

/-- The box of a widget that is marked for its script. -/
theorem widget_sound {tag : String} {attrs : List Attr} {children : List Html}
    {scripts : List ScriptBlock} (htag : tag ∈ pairedTags) (hattrs : ∀ a ∈ attrs, a.name ∈ plainAttrs)
    (hchildren : ∀ x ∈ children, x.Sound false) :
    Fragment.Sound ⟨[.block tag (boxAttrs n placement [] attrs) children], scripts⟩ :=
  List.forall_mem_singleton.2
    (.block htag (boxAttrs_sound n placement [] (plain_sound hattrs)) hchildren)

theorem slideHtml_sound (index : Nat) (slide : Json) : (slideHtml index slide).Sound false := by
  refine .block (by decide) (plain_sound (by simp [attr, plainAttrs]))
    (List.forall_mem_append.2 ⟨htmlIf_sound ?_, htmlIf_sound ?_⟩)
  · exact List.forall_mem_singleton.2 (.line (img_sound _ true (by simp [attr, plainAttrs])))
  · refine List.forall_mem_singleton.2 (divBlock_sound _ (List.forall_mem_append.2 ⟨?_, ?_⟩))
    · exact spanUnlessEmpty_sound (by decide) (List.forall_mem_nil _) _
    · exact spanUnlessEmpty_sound (by decide) (List.forall_mem_nil _) _

theorem dotHtml_sound (index : Nat) : (dotHtml index).Sound false :=
  .line (.span (by decide) (plain_sound (by simp [attr, plainAttrs])) (List.forall_mem_nil _))

theorem carouselFragment_sound : (carouselFragment n placement).Sound := by
  refine widget_sound n placement (by decide) (by simp [attr, plainAttrs]) ?_
  refine List.forall_mem_append.2 ⟨List.forall_mem_append.2 ⟨?_, htmlIf_sound ?_⟩, htmlIf_sound ?_⟩
  · refine List.forall_mem_singleton.2 (divBlock_sound _ fun x hx => ?_)
    obtain ⟨i, hi, rfl⟩ := List.mem_mapIdx.1 hx
    exact slideHtml_sound i _
  · exact arrows_sound "carousel"
  · refine List.forall_mem_singleton.2 (divBlock_sound _ fun x hx => ?_)
    obtain ⟨i, hi, rfl⟩ := List.mem_map.1 hx
    exact dotHtml_sound i

theorem cardsCarouselFragment_sound : (cardsCarouselFragment ctx n placement).Sound := by
  refine widget_sound n placement (by decide) (by simp [attr, plainAttrs]) ?_
  refine List.forall_mem_cons.2 ⟨divBlock_sound _ ?_, htmlIf_sound (arrows_sound "cards")⟩
  refine List.forall_mem_singleton.2 (divBlock_sound _ fun x hx => ?_)
  obtain ⟨card, hcard, rfl⟩ := List.mem_map.1 hx
  exact cardItem_sound ctx card

theorem catalogSearch_sound (placeholder : String) : (catalogSearch placeholder).Sound false := by
  refine .line (.span (by decide) (plain_sound (by simp [attr, plainAttrs])) ?_)
  refine List.forall_mem_cons.2 ⟨?_, List.forall_mem_singleton.2 ?_⟩
  · exact .void true (by decide) (plain_sound (by simp [attr, plainAttrs]))
  · exact .span (by decide) (plain_sound (by simp [attr, plainAttrs]))
      (List.forall_mem_singleton.2 (.text _))

theorem catalogModal_sound : catalogModal.Sound false := by
  refine .block (by decide) (plain_sound (by decide)) (List.forall_mem_singleton.2 ?_)
  refine .block (by decide) (plain_sound (by decide)) (List.forall_mem_cons.2 ⟨?_, ?_⟩)
  · exact .line (.span (by decide) (plain_sound (by decide))
      (List.forall_mem_singleton.2 (.entity (by decide))))
  · exact List.forall_mem_singleton.2 (textSpan_sound (by decide) (plain_sound (by decide)) _)

theorem catalogFragment_sound (catalog : CatalogOptions) :
    (catalogFragment catalog n placement).Sound := by
  refine widget_sound n placement (by decide) (by simp [attr, plainAttrs]) ?_
  refine List.forall_mem_append.2 ⟨List.forall_mem_append.2 ⟨?_, fun x hx => ?_⟩, ?_⟩
  · refine List.forall_mem_singleton.2 (divBlock_sound _ (List.forall_mem_append.2 ⟨?_, ?_⟩))
    · exact spanUnlessEmpty_sound (by decide) (List.forall_mem_nil _) _
    · exact htmlIf_sound (List.forall_mem_singleton.2 (catalogSearch_sound _))
  · obtain ⟨part, hpart, rfl⟩ := List.mem_map.1 hx
    exact textSpan_sound (by decide) (plain_sound (by simp [attr, plainAttrs])) _
  · refine List.forall_mem_cons.2 ⟨?_, List.forall_mem_singleton.2 catalogModal_sound⟩
    exact textSpan_sound (by decide) (plain_sound (by simp [attr, plainAttrs])) _

theorem FormField.html_sound (f : FormField) : f.html.Sound false := by
  have hcommon : ∀ a ∈ [attr "name" f.name, attr "placeholder" f.placeholder] ++
      (if f.required then [flag "required"] else []), a.name ∈ plainAttrs := by
    cases f.required <;> simp [attr, flag, plainAttrs]
  refine .line (.span (by decide) (List.forall_mem_nil _) ?_)
  refine List.forall_mem_cons.2 ⟨.text _, List.forall_mem_singleton.2 ?_⟩
  split
  · exact .span (by decide) (plain_sound hcommon) (List.forall_mem_nil _)
  · have htype : (attr "type" (inputType f.kind)).name ∈ plainAttrs := by simp [attr, plainAttrs]
    exact .void true (by decide) (plain_sound (List.forall_mem_cons.2 ⟨htype, hcommon⟩))

theorem submitButton_sound (label : String) : (submitButton label).Sound false :=
  textSpan_sound (by decide) (plain_sound (by decide)) label

theorem formControls_sound : ∀ x ∈ formControls n, x.Sound false := by
  unfold formControls
  split
  · refine List.forall_mem_append.2 ⟨fun x hx => ?_, ?_⟩
    · obtain ⟨f, hf, rfl⟩ := List.mem_map.1 hx
      exact f.html_sound
    · exact List.forall_mem_singleton.2 (submitButton_sound _)
  · refine List.forall_mem_singleton.2 (divBlock_sound _ (List.forall_mem_cons.2 ⟨?_, ?_⟩))
    · exact .line (.void true (by decide) (plain_sound (by simp [attr, flag, plainAttrs])))
    · exact List.forall_mem_singleton.2 (submitButton_sound _)
  · refine List.forall_mem_cons.2 ⟨?_, List.forall_mem_singleton.2 (submitButton_sound _)⟩
    exact .line (.void true (by decide) (plain_sound (by simp [attr, plainAttrs])))

theorem formFragment_sound : (formFragment n placement).Sound := by
  refine widget_sound n placement (by decide) ?_ ?_
  · cases formKind n.type == "search" <;> simp [attr, flag, plainAttrs]
  · refine List.forall_mem_append.2 ⟨List.forall_mem_append.2
      ⟨List.forall_mem_append.2 ⟨?_, ?_⟩, formControls_sound n⟩, htmlIf_sound ?_⟩
    · exact spanUnlessEmpty_sound (by decide) (List.forall_mem_nil _) _
    · exact spanUnlessEmpty_sound (by decide) (List.forall_mem_nil _) _
    · exact List.forall_mem_singleton.2 (textSpan_sound (by decide) (plain_sound (by decide)) _)

end Widgets

section Elements

variable (ctx : DocumentContext) (n : Node) (placement : Placement)

theorem leafFragment_sound {tag : String} {attrs : List Attr} {content : List Inline}
    (htag : tag ∈ pairedTags) (hattrs : ∀ a ∈ attrs, a.Sound) (hcontent : ∀ i ∈ content, i.Sound) :
    (leafFragment n placement tag attrs content).Sound :=
  List.forall_mem_singleton.2 (.line (.span htag (boxAttrs_sound n placement [] hattrs) hcontent))

/-- The level of a heading is one of the six that there are. -/
theorem headingLevel_range : 1 ≤ headingLevel n ∧ headingLevel n ≤ 6 := by
  have hfinite : ((n.propNumber? "level").getD 2.0).isFinite = true := by
    cases hlevel : n.propNumber? "level" with
    | none => decide +kernel
    | some x =>
      unfold Node.propNumber? at hlevel
      exact (Option.filter_eq_some_iff.1 hlevel).2
  have hrange : (Binary.ofFloat 1.0).truncate.toNat ≤ headingLevel n ∧
      headingLevel n ≤ (Binary.ofFloat 6.0).truncate.toNat :=
    wholeBetween_range (by decide +kernel) (by decide +kernel) hfinite (by decide +kernel)
  have hends : (Binary.ofFloat 1.0).truncate.toNat = 1 ∧
      (Binary.ofFloat 6.0).truncate.toNat = 6 := by
    decide +kernel
  rwa [hends.1, hends.2] at hrange

theorem headingTag_mem : "h" ++ toString (headingLevel n) ∈ pairedTags := by
  have htags : ∀ level < 7, 1 ≤ level → "h" ++ toString level ∈ pairedTags := by decide
  obtain ⟨hlow, hhigh⟩ := headingLevel_range n
  exact htags _ (Nat.lt_succ_of_le hhigh) hlow

theorem buttonFragment_sound : (buttonFragment ctx n placement).Sound := by
  have htype : (attr "type" "button").Sound := .plain _ (by decide)
  have hlabel (s : String) : ∀ i ∈ [Inline.text s], i.Sound := List.forall_mem_singleton.2 (.text s)
  unfold buttonFragment
  split
  · next id hid =>
    exact leafFragment_sound n placement (by decide)
      (List.forall_mem_cons.2 ⟨htype, sectionLinkAttrs_sound ctx id⟩) (hlabel _)
  · next url hurl =>
    refine leafFragment_sound n placement (by decide) (List.forall_mem_cons.2 ⟨?_, ?_⟩) (hlabel _)
    · exact .address url (by decide)
    · exact plain_sound (by simp [attr, plainAttrs])
  · exact leafFragment_sound n placement (by decide) (List.forall_mem_singleton.2 htype) (hlabel _)

theorem imageFragment_sound : (imageFragment n placement).Sound := by
  refine List.forall_mem_singleton.2 (.line (.void false (by decide) ?_))
  refine boxAttrs_sound n placement [] (List.forall_mem_cons.2 ⟨.address _ (by decide), ?_⟩)
  exact plain_sound (by simp [attr, plainAttrs])

theorem videoFragment_sound : (videoFragment n placement).Sound := by
  refine leafFragment_sound n placement (by decide) (List.forall_mem_append.2 ⟨?_, ?_⟩)
    (List.forall_mem_nil _)
  · exact List.forall_mem_cons.2 ⟨.address _ (by decide), plain_sound (by decide)⟩
  · split
    · next url hurl => exact List.forall_mem_singleton.2 (.address url (by decide))
    · exact List.forall_mem_nil _

theorem headerLogo_sound : ∀ x ∈ headerLogo n, x.Sound false := by
  have hclass : ∀ a ∈ [attr "class" "pc-header-logo"], a.Sound := plain_sound (by decide)
  unfold headerLogo
  dsimp only
  split
  · refine List.forall_mem_singleton.2 (.line (.span (by decide) hclass ?_))
    exact List.forall_mem_singleton.2 (img_sound _ true (by simp [attr, plainAttrs]))
  · exact spanUnlessEmpty_sound (by decide) hclass _

theorem headerLink_sound (link : Json) : (headerLink ctx link).Sound false := by
  have hclass : (attr "class" "pc-header-link").Sound := .plain _ (by decide)
  -- `#` alone leads to no section
  have hnowhere : (attr "href" "#").Sound := .fragment ""
  refine textSpan_sound (by decide) (List.forall_mem_cons.2 ⟨hclass, ?_⟩) _
  split
  · next id hid =>
    refine List.forall_mem_cons.2 ⟨?_, sectionLinkAttrs_sound ctx id⟩
    split
    · next s hs => exact .fragment s.slug
    · exact hnowhere
  · next url hurl => exact List.forall_mem_singleton.2 (.address url (by decide))
  · exact List.forall_mem_singleton.2 hnowhere

theorem headerNav_sound : ∀ x ∈ headerNav ctx n, x.Sound false := by
  unfold headerNav
  split
  · exact List.forall_mem_nil _
  · refine List.forall_mem_singleton.2 (.block (by decide) (plain_sound (by decide)) fun x hx => ?_)
    obtain ⟨link, hlink, rfl⟩ := List.mem_map.1 hx
    exact headerLink_sound ctx link

theorem Fragment.Sound.append {f g : Fragment} (hf : f.Sound) (hg : g.Sound) :
    (f.append g).Sound :=
  List.forall_mem_append.2 ⟨hf, hg⟩

theorem Fragment.Sound.inBlock {f : Fragment} (hf : f.Sound) {tag : String} {attrs : List Attr}
    {before : List Html} (htag : tag ∈ pairedTags) (hattrs : ∀ a ∈ attrs, a.Sound)
    (hbefore : ∀ x ∈ before, x.Sound false) : (f.inBlock tag attrs before).Sound :=
  List.forall_mem_singleton.2 (.block htag hattrs (List.forall_mem_append.2 ⟨hbefore, hf⟩))

mutual

theorem Element.render_sound (e : Element) (ctx : DocumentContext) (placement : Placement)
    {f : Fragment} (h : e.render ctx placement = .ok f) : f.Sound := by
  cases e with
  | mk n children =>
    have hbox (extra : Declarations) : ∀ a ∈ boxAttrs n placement extra [], a.Sound :=
      boxAttrs_sound n placement extra (List.forall_mem_nil _)
    have htext (s : String) : ∀ i ∈ [Inline.text s], i.Sound :=
      List.forall_mem_singleton.2 (.text s)
    have hhidden : ∀ a ∈ [attr "aria-hidden" "true"], a.Sound := plain_sound (by decide)
    have hnone {α : Type} (p : α → Prop) : ∀ x ∈ ([] : List α), p x := List.forall_mem_nil p
    rw [Element.render] at h
    split at h
    · cases h
      exact leafFragment_sound n placement (by decide) (hnone _) (htext _)
    · cases h
      exact leafFragment_sound n placement (headingTag_mem n) (hnone _) (htext _)
    · cases h
      exact buttonFragment_sound ctx n placement
    · cases h
      exact imageFragment_sound n placement
    · cases h
      exact videoFragment_sound n placement
    · cases h
      exact leafFragment_sound n placement (by decide) hhidden (htext _)
    · obtain ⟨inner, hinner, hblock⟩ := bind_ok h
      cases hblock
      have hforest := Forest.render_sound children ctx .absolute hinner
      exact hforest.inBlock (by decide) (hbox _) (hnone _)
    · obtain ⟨inner, hinner, hblock⟩ := bind_ok h
      cases hblock
      have hforest := Forest.render_sound children ctx .absolute hinner
      exact hforest.inBlock (by decide) (hbox _) (hnone _)
    · obtain ⟨inner, hinner, hblock⟩ := bind_ok h
      cases hblock
      exact (Forest.render_sound children ctx .flow hinner).inBlock (by decide) (hbox _) (hnone _)
    · obtain ⟨inner, hinner, hblock⟩ := bind_ok h
      cases hblock
      exact (Forest.render_sound children ctx .flow hinner).inBlock (by decide) (hbox _) (hnone _)
    · obtain ⟨inner, hinner, hblock⟩ := bind_ok h
      cases hblock
      exact (Forest.render_sound children ctx .absolute hinner).inBlock (by decide) (hbox _)
        (cardParts_sound _ _ _ _)
    · obtain ⟨inner, hinner, hblock⟩ := bind_ok h
      cases hblock
      exact (Forest.render_sound children ctx .absolute hinner).inBlock (by decide) (hbox _)
        (List.forall_mem_append.2 ⟨headerLogo_sound n, headerNav_sound ctx n⟩)
    iterate 4
      · cases h
        exact leafFragment_sound n placement (by decide) (hnone _) (hnone _)
    · cases h
      exact leafFragment_sound n placement (by decide) hhidden (hnone _)
    · cases h
      exact carouselFragment_sound n placement
    · cases h
      exact cardsCarouselFragment_sound ctx n placement
    · split at h
      · next catalog hcatalog =>
        cases h
        exact catalogFragment_sound n placement catalog
      · cases h
    iterate 3
      · cases h
        exact formFragment_sound n placement

/-- Whatever a forest holds, its markup is sound. -/
theorem Forest.render_sound (forest : List Element) (ctx : DocumentContext) (placement : Placement)
    {f : Fragment} (h : Forest.render ctx placement forest = .ok f) : f.Sound := by
  cases forest with
  | nil =>
    cases h
    exact List.forall_mem_nil _
  | cons e rest =>
    rw [Forest.render] at h
    obtain ⟨first, hfirst, hrest⟩ := bind_ok h
    obtain ⟨others, hothers, hboth⟩ := bind_ok hrest
    cases hboth
    exact (Element.render_sound e ctx placement hfirst).append
      (Forest.render_sound rest ctx placement hothers)

end

end Elements

end PageBuilder
