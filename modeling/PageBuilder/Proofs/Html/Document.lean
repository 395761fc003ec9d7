import PageBuilder.Proofs.Html.ScriptText
import PageBuilder.Proofs.Html.Templates

/-!
Documents read back. The text of a document is the text of one tree of sound markup, so a reader
gets the tags of the templates in balance, the router's script and one script for each widget, and
finds every text of the document among the characters and values that it may be in.
-/

namespace PageBuilder

section Document

variable {sections : Sections} {options : ExportOptions} {html : String}

/-- The tree of a document with the markup and the scripts of its sections. -/
def documentHtml (sections : Sections) (options : ExportOptions) (body : Fragment) : Html :=
  .block "html" [attr "lang" options.lang]
    [headHtml options.title,
      .block "body" [] (body.markup ++ scriptsHtml (routerScript sections :: body.scripts))]

theorem sectionFragment_sound {ctx : DocumentContext} {visible : Bool} {s : Section} {f : Fragment}
    (h : sectionFragment ctx visible s = .ok f) : f.Sound := by
  obtain ⟨inner, hinner, hblock⟩ := bind_ok h
  cases hblock
  refine (Forest.render_sound s.elements ctx .absolute hinner).inBlock (by decide) ?_
    (List.forall_mem_nil _)
  exact plain_sound (by simp [attr, plainAttrs])

theorem sectionFragments_sound {ctx : DocumentContext} {home : Option String} {ss : List Section}
    {f : Fragment} (h : sectionFragments ctx home ss = .ok f) : f.Sound := by
  induction ss generalizing f with
  | nil =>
    cases h
    exact List.forall_mem_nil _
  | cons s rest ih =>
    obtain ⟨first, hfirst, hrest⟩ := bind_ok h
    obtain ⟨others, hothers, hboth⟩ := bind_ok hrest
    cases hboth
    exact (sectionFragment_sound hfirst).append (ih hothers)

theorem Html.Sound.allowRaw {x : Html} (h : x.Sound false) : x.Sound true := by
  induction h with
  | line hcontent => exact .line hcontent
  | block htag hattrs hchildren ih => exact .block htag hattrs ih
  | style hraw hrules => cases hraw
  | script name hraw hbody => cases hraw

theorem headHtml_sound (title : String) : (headHtml title).Sound true := by
  refine .block (by decide) (List.forall_mem_nil _) ?_
  refine List.forall_mem_cons.2 ⟨.line (.void false (by decide) (plain_sound (by decide))), ?_⟩
  refine List.forall_mem_cons.2 ⟨.line (.void false (by decide) (plain_sound (by decide))), ?_⟩
  refine List.forall_mem_cons.2 ⟨textSpan_sound (by decide) (List.forall_mem_nil _) title, ?_⟩
  exact List.forall_mem_singleton.2
    (.style rfl fun rule hrule => not_mem_of_styleLine (stylesheet_lines rule hrule))

theorem scriptsHtml_sound (scripts : List ScriptBlock) :
    ∀ x ∈ scriptsHtml scripts, x.Sound true := by
  intro x hx
  obtain ⟨b, hb, rfl⟩ := List.mem_map.1 hx
  exact .script _ rfl b.text_noEndTag

theorem documentHtml_sound {body : Fragment} (h : body.Sound) :
    (documentHtml sections options body).Sound true := by
  refine .block (by decide) (plain_sound (by simp [attr, plainAttrs])) ?_
  refine List.forall_mem_cons.2 ⟨headHtml_sound _, List.forall_mem_singleton.2 ?_⟩
  refine .block (by decide) (List.forall_mem_nil _) (List.forall_mem_append.2 ⟨?_, ?_⟩)
  · exact fun x hx => (h x hx).allowRaw
  · exact scriptsHtml_sound _

/-- A document is its first line and the text of one tree. -/
theorem compileDocument_eq (h : compileDocument sections options = .ok html) :
    ∃ body, sectionFragments ⟨sections, options⟩ (sections.home?.map Section.id) sections.ordered =
        .ok body ∧
      html = doctype ++ (options.layout.behind ++
        writePieces options.layout ((documentHtml sections options body).pieces 0)) := by
  unfold compileDocument at h
  cases hpieces : documentPieces sections options with
  | error e =>
    rw [hpieces] at h
    cases h
  | ok pieces =>
    rw [hpieces] at h
    cases h
    unfold documentPieces at hpieces
    split at hpieces
    · cases hpieces
    obtain ⟨body, hbody, hall⟩ := bind_ok hpieces
    cases hall
    refine ⟨body, hbody, ?_⟩
    -- the first line stands at depth zero
    have hbefore : options.layout.before 0 = "" := by
      unfold LayoutStyle.before
      split <;> rfl
    rw [writePieces, Piece.write_line, hbefore]
    simp only [String.empty_append, String.append_assoc]
    rfl

/-- The lines of a document in front of its title. -/
def linesBeforeTitle (lang : String) : List Piece :=
  [.line 0 doctype, .line 0 (startTag "html" [attr "lang" lang]), .line 1 (startTag "head" []),
    .line 2 (Inline.void "meta" [attr "charset" "UTF-8"] false).write,
    .line 2 (Inline.void "meta" [attr "name" "viewport",
      attr "content" "width=device-width, initial-scale=1.0"] false).write]

theorem compileDocument_title (h : compileDocument sections options = .ok html) :
    ∃ rest, html = writePieces options.layout (linesBeforeTitle options.lang) ++
      options.layout.before 2 ++ "<title>" ++ (escapeHtml options.title ++ "</title>" ++ rest) := by
  unfold compileDocument at h
  cases hpieces : documentPieces sections options with
  | error e =>
    rw [hpieces] at h
    cases h
  | ok pieces =>
    rw [hpieces] at h
    cases h
    unfold documentPieces at hpieces
    split at hpieces
    · cases hpieces
    obtain ⟨body, -, hall⟩ := bind_ok hpieces
    cases hall
    have htitle : (Inline.span "title" [] [.text options.title]).write =
        "<title>" ++ escapeHtml options.title ++ "</title>" := by
      have hopen : startTag "title" [] = "<title>" := by decide
      have hclose : endTag "title" = "</title>" := by decide
      rw [Inline.write, Inline.writeAll, Inline.writeAll, Inline.write, hopen, hclose,
        String.append_empty]
    have hlines : ∃ behind, .line 0 doctype :: (documentHtml sections options body).pieces 0 =
        linesBeforeTitle options.lang ++
          .line 2 (Inline.span "title" [] [.text options.title]).write :: behind := by
      simp only [documentHtml, headHtml, textSpan, Html.pieces, Html.allPieces, linesBeforeTitle,
        List.cons_append, List.nil_append]
      exact ⟨_, rfl⟩
    obtain ⟨behind, hbehind⟩ := hlines
    refine ⟨options.layout.behind ++ writePieces options.layout behind, ?_⟩
    change writePieces options.layout
      (.line 0 doctype :: (documentHtml sections options body).pieces 0) = _
    rw [hbehind, htitle, writePieces_append, writePieces, Piece.write_line]
    simp only [String.append_assoc]

/-- Documents of one language and layout are equal only if their titles are. -/
theorem title_of_document {sections' : Sections} {options' : ExportOptions}
    (hlang : options'.lang = options.lang) (hlayout : options'.layout = options.layout)
    (h : compileDocument sections options = .ok html)
    (h' : compileDocument sections' options' = .ok html) : options.title = options'.title := by
  obtain ⟨rest, hrest⟩ := compileDocument_title h
  obtain ⟨rest', hrest'⟩ := compileDocument_title h'
  have hends : (escapeHtml options.title).toList ++ '<' :: ("/title>" ++ rest).toList =
      (escapeHtml options'.title).toList ++ '<' :: ("/title>" ++ rest').toList := by
    rw [hlang, hlayout, hrest, ← String.toList_inj] at hrest'
    simpa using hrest'
  -- an escaped title ends before the first bracket
  have hbefore (s : String) (behind : List Char) :
      ((escapeHtml s).toList ++ '<' :: behind).takeWhile (· ≠ '<') = (escapeHtml s).toList := by
    rw [List.takeWhile_append_of_pos fun c hc => by simpa using (escapeHtml_plain s hc).1]
    simp
  have htitles := congrArg (List.takeWhile (· ≠ '<')) hends
  rw [hbefore, hbefore, String.toList_inj] at htitles
  exact escapeHtml_inj.1 htitles

/-- The tokens of a document behind its first line. -/
def documentTokens (sections : Sections) (options : ExportOptions) (body : Fragment) : List Token :=
  charTokens options.layout.behind ++ (documentHtml sections options body).tokens options.layout 0

/-- The text of a document behind its first line is read as the tokens of its tree. -/
theorem documentTokens_read {body : Fragment} (h : body.Sound)
    (hindent : ∀ c ∈ options.indent.toList, c ≠ '<') :
    readTokens .content (options.layout.behind ++
      writePieces options.layout ((documentHtml sections options body).pieces 0)).toList =
        some (documentTokens sections options body) := by
  have hline : Reads options.layout.behind.toList (charTokens options.layout.behind) :=
    Reads.charTokens fun c hc => (options.layout.behind_plain c hc).1
  have htree : Reads
      (writePieces options.layout ((documentHtml sections options body).pieces 0)).toList
      ((documentHtml sections options body).tokens options.layout 0) :=
    (documentHtml_sound h).reads hindent 0
  rw [String.toList_append]
  exact (hline.append htree).readTokens_eq

theorem compileDocument_reads (h : compileDocument sections options = .ok html)
    (hindent : ∀ c ∈ options.indent.toList, IsPlain c) :
    ∃ body rest,
      sectionFragments ⟨sections, options⟩ (sections.home?.map Section.id) sections.ordered =
        .ok body ∧
      html = doctype ++ rest ∧ (documentHtml sections options body).Sound true ∧
      readTokens .content rest.toList = some (documentTokens sections options body) := by
  obtain ⟨body, hbody, hhtml⟩ := compileDocument_eq h
  have hsound := sectionFragments_sound hbody
  exact ⟨body, _, hbody, hhtml, documentHtml_sound hsound,
    documentTokens_read hsound fun c hc => (hindent c hc).1⟩

theorem documentTokens_sound {body : Fragment} (hindent : ∀ c ∈ options.indent.toList, IsPlain c)
    (h : (documentHtml sections options body).Sound true) :
    ∀ t ∈ documentTokens sections options body, t.Sound :=
  List.forall_mem_append.2
    ⟨charTokens_sound options.layout.behind_plain, h.tokens_sound hindent 0⟩

theorem documentTokens_closed {body : Fragment}
    (h : (documentHtml sections options body).Sound true) :
    Closed (documentTokens sections options body) :=
  (Closed.chars _).append (h.closed 0)

/-- A script with its name and its text, as it stands in a document. -/
def ScriptBlock.read (style : LayoutStyle) (b : ScriptBlock) : String × List Attr × List Char :=
  ("script", [⟨"data-module", some (escapeHtml b.behavior.name)⟩],
    (style.contents 2 (b.text ++ "\n")).toList)

/-- The style sheet as it stands in a document. -/
def stylesheetRead (style : LayoutStyle) : String × List Attr × List Char :=
  ("style", [], (style.contents 2 (writePieces style (stylesheet.map (Piece.line 3)))).toList)

theorem headHtml_raw (style : LayoutStyle) (title : String) :
    ((headHtml title).tokens style 1).filterMap Token.raw? = [stylesheetRead style] := by
  have htitle : ((textSpan "title" [] title).tokens style 2).filterMap Token.raw? = [] :=
    (textSpan_sound (by decide) (List.forall_mem_nil _) title).no_raw 2
  simp only [headHtml, Html.tokens, Html.allTokens, List.filterMap_append, style.lineTokens_raw,
    htitle, List.append_nil, List.nil_append]
  rfl

theorem scriptsHtml_raw (style : LayoutStyle) (scripts : List ScriptBlock) :
    (Html.allTokens style 2 (scriptsHtml scripts)).filterMap Token.raw? =
      scripts.map (ScriptBlock.read style) := by
  induction scripts with
  | nil => rfl
  | cons b rest ih =>
    have hrest : (Html.allTokens style 2 (scriptsHtml rest)).filterMap Token.raw? = _ := ih
    simp only [scriptsHtml, List.map_cons, Html.allTokens, List.filterMap_append, Html.tokens,
      style.lineTokens_raw] at hrest ⊢
    rw [hrest]
    rfl

/-- A document has one style sheet, and its scripts are the router's and those of its widgets. -/
theorem documentTokens_raw {body : Fragment} (h : body.Sound) :
    (documentTokens sections options body).filterMap Token.raw? =
      stylesheetRead options.layout ::
        (routerScript sections :: body.scripts).map (ScriptBlock.read options.layout) := by
  have hmarkup : (Html.allTokens options.layout 2 body.markup).filterMap Token.raw? = [] := by
    rw [Html.allTokens_eq, List.filterMap_flatMap, List.flatMap_eq_nil_iff]
    exact fun x hx => (h x hx).no_raw 2
  have hscripts := scriptsHtml_raw options.layout (routerScript sections :: body.scripts)
  have hhead := headHtml_raw options.layout options.title
  have hstart (name : String) (attrs : List Attr) :
      [Token.startTag name attrs].filterMap Token.raw? = [] := rfl
  have hend (name : String) : [Token.endTag name].filterMap Token.raw? = [] := rfl
  rw [Html.allTokens_eq] at hmarkup hscripts
  simp only [documentTokens, documentHtml, Html.tokens, Html.allTokens, List.filterMap_append,
    charTokens_raw, options.layout.lineTokens_raw, Nat.zero_add, hhead, hstart, hend,
    Html.allTokens_eq, List.flatMap_append, hmarkup, hscripts, List.nil_append,
    List.append_nil, List.singleton_append]

/-- A tag or a character that templates write. Texts and values hold plain characters only. -/
def Token.OfTemplates : Token → Prop
  | .char c => IsPlain c
  | .startTag name attrs =>
    name ∈ templateTags ∧
      ∀ a ∈ attrs, a.name ∈ templateAttrs ∧ ∀ value ∈ a.value, ∀ c ∈ value.toList, IsPlain c
  | .endTag name => name ∈ templateTags
  | .raw name _ _ => name ∈ rawTags

theorem Token.Sound.ofTemplates {t : Token} (h : t.Sound) : t.OfTemplates := by
  cases h with
  | char hc => exact hc
  | startTag hname hattrs =>
    refine ⟨hname, fun a ha => ?_⟩
    obtain ⟨source, hsource, rfl⟩ := List.mem_map.1 ha
    refine ⟨(hattrs source hsource).name_mem, fun value hvalue c hc => ?_⟩
    obtain ⟨v, hv, rfl⟩ := Option.map_eq_some_iff.1 hvalue
    exact escapeHtml_plain v hc
  | endTag hname => exact hname
  | raw attrs contents hname => exact hname

theorem isPlain_of_isBlank {c : Char} (h : isBlank c = true) : IsPlain c := by
  refine ⟨?_, ?_, ?_⟩ <;> rintro rfl <;> revert h <;> decide

/-- A document whose indentation is white space is read back as the tree that it was made of: its
texts are read as texts and its values as values of the attributes that they were given to. All tags
but the void ones are closed in order, all of them are tags of templates, and no bracket and no
quote is left in texts and values. The only style sheet is the fixed one. The scripts are the
router's and those of the widgets, each with its own text, in which every `<` comes from the fixed
lines of its behaviour. -/
theorem document_reads_back (h : compileDocument sections options = .ok html)
    (hindent : ∀ c ∈ options.indent.toList, isBlank c = true) :
    ∃ body rest tokens,
      sectionFragments ⟨sections, options⟩ (sections.home?.map Section.id) sections.ordered =
        .ok body ∧
      html = doctype ++ rest ∧ readTokens .content rest.toList = some tokens ∧
      tokens = documentTokens sections options body ∧ Balanced tokens ∧
      (∀ t ∈ tokens, t.OfTemplates) ∧
      tokens.filterMap Token.raw? = stylesheetRead options.layout ::
        (routerScript sections :: body.scripts).map (ScriptBlock.read options.layout) ∧
      ∀ b ∈ routerScript sections :: body.scripts,
        b.text.toList.count '<' = (endedLines b.behavior.source).toList.count '<' := by
  have hplain : ∀ c ∈ options.indent.toList, IsPlain c :=
    fun c hc => isPlain_of_isBlank (hindent c hc)
  obtain ⟨body, rest, hbody, hhtml, hsound, hread⟩ := compileDocument_reads h hplain
  refine ⟨body, rest, _, hbody, hhtml, hread, rfl, documentTokens_closed hsound [], ?_, ?_, ?_⟩
  · exact fun t ht => (documentTokens_sound hplain hsound t ht).ofTemplates
  · exact documentTokens_raw (sectionFragments_sound hbody)
  · exact fun b _ => b.text_count

theorem exists_document (h : (compileDocument sections options).isOk = true) :
    ∃ html, compileDocument sections options = .ok html := ok_of_isOk h

/-- A section whose texts look like markup. -/
def markupSections : Sections :=
  SortedMap.ofList [("home", { Section.home "home" "Home" with
    slug := "\"><script>alert(1)</script>"
    elements := [
      .mk ⟨"</div>", .heading,
        SortedMap.ofList [("content", .str "</h2><script>alert(1)</script>")],
        SortedMap.ofList [("color", .str "red\" onclick=\"alert(1)")], ⟨0, 0⟩, ⟨.auto, .auto⟩⟩ [],
      .mk ⟨"form", .searchForm, SortedMap.ofList [("buttonText", .str "</script>")], .empty, ⟨0, 0⟩,
        ⟨.auto, .auto⟩⟩ []] })]

def markupOptions : ExportOptions := { title := "</title>" }

/-- The texts that look like markup add nothing to the style sheet, the router and the script of the
form. -/
theorem document_reads_back_markup :
    (∀ c ∈ markupOptions.indent.toList, isBlank c = true) ∧
      ∃ html rest tokens, compileDocument markupSections markupOptions = .ok html ∧
        html = doctype ++ rest ∧ readTokens .content rest.toList = some tokens ∧ Balanced tokens ∧
        (∀ t ∈ tokens, t.OfTemplates) ∧ (tokens.filterMap Token.raw?).length = 3 := by
  have hindent : ∀ c ∈ markupOptions.indent.toList, isBlank c = true := by decide
  obtain ⟨html, h⟩ : ∃ html, compileDocument markupSections markupOptions = .ok html :=
    exists_document (by decide +kernel)
  obtain ⟨body, rest, tokens, hbody, hhtml, hread, -, hbalanced, htokens, hraw, -⟩ :=
    document_reads_back h hindent
  refine ⟨hindent, html, rest, tokens, h, hhtml, hread, hbalanced, htokens, ?_⟩
  have hscripts : ((sectionFragments ⟨markupSections, markupOptions⟩
      (markupSections.home?.map Section.id) markupSections.ordered).toOption.map
        (·.scripts.length)) = some 1 := by decide +kernel
  rw [hbody] at hscripts
  have hform : body.scripts.length = 1 := Option.some.inj hscripts
  rw [hraw, List.length_cons, List.length_map, List.length_cons, hform]

end Document

end PageBuilder
