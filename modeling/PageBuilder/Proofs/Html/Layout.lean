import PageBuilder.Proofs.Html.Emission

/-!
Documents with and without line breaks. The pieces of a document do not depend on how it is laid
out, and the steps that write it frame what they write. So a document with line breaks and one
without differ by their layout alone.
-/

namespace PageBuilder

section Steps

/-- What the block of a section writes. -/
def sectionSteps (ctx : DocumentContext) (visible : Bool) (s : Section) :
    Except CompileError (List WriterStep) := do
  let inner ← Forest.steps ctx .absolute s.elements
  return opens "div" [attr "class" "pc-section", attr "id" ("section-" ++ s.slug),
    attr "data-section-id" s.id, attr "data-slug" s.slug,
    attr "style" (sectionStyle ctx visible s).css] ++ inner ++ closes "div"

/-- What the blocks of sections write, one after the other. -/
def sectionsSteps (ctx : DocumentContext) (homeId : Option String) :
    List Section → Except CompileError (List WriterStep)
  | [] => .ok []
  | s :: rest => do
    let first ← sectionSteps ctx (homeId == some s.id) s
    let others ← sectionsSteps ctx homeId rest
    return first ++ others

def headSteps (title : String) : List WriterStep :=
  opens "head" [] ++
  (linesOf [.line (.void "meta" [attr "charset" "UTF-8"] false),
      .line (.void "meta" [attr "name" "viewport",
        attr "content" "width=device-width, initial-scale=1.0"] false),
      textSpan "title" [] title] ++
    (opens "style" [] ++ stylesheet.map .line ++ closes "style")) ++
  closes "head"

def scriptSteps (b : ScriptBlock) : List WriterStep :=
  [.line (startTag "script" [attr "data-module" b.behavior.name]), .raw b.text, .raw "\n",
    .line "</script>"]

/-- The writer at the end of a document. The scripts that the sections keep for later are written
behind the script of the router. -/
def writeDocument (sections : Sections) (options : ExportOptions) : Except CompileError Writer :=
  if sections.isEmpty then .error .noSections
  else do
    let blocks ← sectionsSteps ⟨sections, options⟩ (sections.home?.map Section.id) sections.ordered
    let start := (Writer.new options.layout).run (.line doctype ::
      (opens "html" [attr "lang" options.lang] ++ headSteps options.title ++ opens "body" []))
    let body := start.run blocks
    let scripts := routerScript sections :: body.scripts
    return { body with scripts := [] }.run
      (scripts.flatMap scriptSteps ++ closes "body" ++ closes "html")

theorem sectionSteps_emit (ctx : DocumentContext) (visible : Bool) (s : Section) :
    Emits (sectionSteps ctx visible s) (sectionFragment ctx visible s) :=
  (Forest.steps_emit s.elements ctx .absolute).in_block "div" _ .nothing

theorem sectionsSteps_emit (ctx : DocumentContext) (homeId : Option String) (ss : List Section) :
    Emits (sectionsSteps ctx homeId ss) (sectionFragments ctx homeId ss) := by
  induction ss with
  | nil => exact .written .nothing
  | cons s rest ih =>
    refine (sectionSteps_emit ctx (homeId == some s.id) s).bind fun first f hf => ?_
    exact ih.bind fun others g hg => .written (hf.append hg)

theorem headSteps_write (title : String) : Writes (headSteps title) ⟨[headHtml title], []⟩ := by
  refine Writes.inside_block (.below (.lines ?_) (.style stylesheet))
  exact isLine_cons _ (isLine_cons _ (isLine_one _))

theorem scriptSteps_write (b : ScriptBlock) :
    Writes (scriptSteps b) ⟨[.script b.behavior.name b.text], []⟩ := by
  refine ⟨fun w => ?_, stepsBackInside_of_none (by simp [scriptSteps])⟩
  rw [Writer.put, List.append_nil]
  simp only [scriptSteps, Writer.run, List.foldl_cons, List.foldl_nil, Writer.step, Html.allPieces,
    Html.pieces, List.append_nil, writePieces, Piece.write, String.append_assoc,
    String.append_empty]

theorem scriptsSteps_write (scripts : List ScriptBlock) :
    Writes (scripts.flatMap scriptSteps) ⟨scriptsHtml scripts, []⟩ :=
  .flatMap fun b _ => scriptSteps_write b

/-- The writer ends with the text of the document. -/
theorem writeDocument_output (sections : Sections) (options : ExportOptions) :
    (writeDocument sections options).map Writer.output = compileDocument sections options := by
  unfold writeDocument
  split
  · rename_i hnone
    rw [compileDocument, documentPieces, if_pos hnone]
    rfl
  rename_i hsome
  rw [compileDocument_map (Bool.eq_false_iff.2 hsome)]
  have hblocks := sectionsSteps_emit ⟨sections, options⟩ (sections.home?.map Section.id)
    sections.ordered
  revert hblocks
  generalize sectionsSteps _ _ _ = blocks
  generalize sectionFragments _ _ _ = body
  rintro (⟨hblocks⟩ | ⟨e⟩)
  · refine congrArg Except.ok ?_
    -- both sides are the same lines at the same depths
    simp only [Writer.run_cons, Writer.run_append, hblocks.run_eq, (headSteps_write _).run_eq,
      (scriptsSteps_write _).run_eq]
    simp only [Writer.run, opens, closes, List.foldl_cons, List.foldl_nil, Writer.step, Writer.new,
      Writer.put, documentHtml, Html.allPieces, Html.pieces, Html.allPieces_append, writePieces,
      writePieces_append, List.append_nil, List.nil_append, String.append_assoc,
      String.append_empty, String.empty_append, Nat.add_sub_cancel, Nat.zero_add]
  · rfl

end Steps

section Pieces

/-- The options with another layout. -/
def ExportOptions.laidOut (o : ExportOptions) (pretty : Bool) (indent : String) : ExportOptions :=
  { o with pretty := pretty, indent := indent }

/-- The text of a raw piece. -/
def Piece.raw? : Piece → Option String
  | .line _ _ => none
  | .raw text => some text

/-- A piece in a document with line breaks: a line behind as many indentations as it is deep, and
before a line feed. -/
def Piece.indented (indent : String) : Piece → String
  | .line depth text => String.join (List.replicate depth indent) ++ text ++ "\n"
  | .raw text => text

theorem repeatText_eq_join (s : String) (n : Nat) :
    repeatText s n = String.join (List.replicate n s) := by
  induction n with
  | zero => rfl
  | succ n ih => rw [repeatText, ih, List.replicate_succ, String.join_cons]

theorem writePieces_pretty {style : LayoutStyle} (h : style.pretty = true) (pieces : List Piece) :
    writePieces style pieces = String.join (pieces.map (Piece.indented style.indent)) := by
  induction pieces with
  | nil => rfl
  | cons p rest ih =>
    have hfirst : p.write style = p.indented style.indent := by
      cases p with
      | line depth text => rw [Piece.write, if_pos h, repeatText_eq_join, Piece.indented]
      | raw text => rfl
    rw [writePieces, ih, List.map_cons, String.join_cons, hfirst]

variable (sections : Sections) (options : ExportOptions) (pretty : Bool) (indent : String)

mutual

theorem Element.render_laidOut (e : Element) (placement : Placement) :
    e.render ⟨sections, options.laidOut pretty indent⟩ placement =
      e.render ⟨sections, options⟩ placement := by
  cases e with
  | mk n children =>
    have hforest (inner : Placement) := Forest.render_laidOut children inner
    -- of the options an element reads the catalog alone
    rw [Element.render, Element.render, hforest, hforest]
    rfl

theorem Forest.render_laidOut (forest : List Element) (placement : Placement) :
    Forest.render ⟨sections, options.laidOut pretty indent⟩ placement forest =
      Forest.render ⟨sections, options⟩ placement forest := by
  cases forest with
  | nil => rfl
  | cons e rest =>
    rw [Forest.render, Forest.render, Element.render_laidOut e, Forest.render_laidOut rest]

end

theorem sectionFragments_laidOut (home : Option String) (ss : List Section) :
    sectionFragments ⟨sections, options.laidOut pretty indent⟩ home ss =
      sectionFragments ⟨sections, options⟩ home ss := by
  induction ss with
  | nil => rfl
  | cons s rest ih =>
    rw [sectionFragments, sectionFragments, ih, sectionFragment, sectionFragment,
      Forest.render_laidOut]
    rfl

theorem documentPieces_laidOut :
    documentPieces sections (options.laidOut pretty indent) = documentPieces sections options := by
  unfold documentPieces
  dsimp only
  rw [sectionFragments_laidOut]
  rfl

end Pieces

section RawTexts

theorem Html.allPieces_eq (depth : Nat) (children : List Html) :
    Html.allPieces depth children = children.flatMap (Html.pieces depth) := by
  induction children with
  | nil => rfl
  | cons x rest ih => rw [Html.allPieces, ih, List.flatMap_cons]

/-- Where scripts are not allowed, there is no raw text. -/
theorem Html.Sound.pieces_raw {x : Html} (h : x.Sound false) (depth : Nat) :
    (x.pieces depth).filterMap Piece.raw? = [] := by
  generalize hraw : false = raw at h
  induction h generalizing depth with
  | line hcontent => rfl
  | block htag hattrs hchildren ih =>
    rw [Html.pieces, Html.allPieces_eq, List.cons_append, List.filterMap_cons_none rfl,
      List.filterMap_append, List.filterMap_flatMap,
      List.flatMap_eq_nil_iff.2 fun x hx => ih x hx (depth + 1)]
    rfl
  | style hallowed => rw [← hraw] at hallowed; cases hallowed
  | script name hallowed => rw [← hraw] at hallowed; cases hallowed

theorem Fragment.Sound.pieces_raw {f : Fragment} (h : f.Sound) (depth : Nat) :
    (Html.allPieces depth f.markup).filterMap Piece.raw? = [] := by
  rw [Html.allPieces_eq, List.filterMap_flatMap,
    List.flatMap_eq_nil_iff.2 fun x hx => (h x hx).pieces_raw depth]

theorem headHtml_pieces_raw (title : String) (depth : Nat) :
    ((headHtml title).pieces depth).filterMap Piece.raw? = [] := by
  have hrules : (stylesheet.map (Piece.line (depth + 1 + 1))).filterMap Piece.raw? = [] := by
    rw [List.filterMap_map]
    exact List.filterMap_eq_nil_iff.2 fun _ _ => rfl
  simp only [headHtml, textSpan, Html.pieces, Html.allPieces, List.append_nil, List.cons_append,
    List.nil_append, List.filterMap_cons, List.filterMap_append, hrules, Piece.raw?]
  rfl

theorem scriptsHtml_pieces_raw (scripts : List ScriptBlock) (depth : Nat) :
    (Html.allPieces depth (scriptsHtml scripts)).filterMap Piece.raw? =
      scripts.map fun b => b.text ++ "\n" := by
  induction scripts with
  | nil => rfl
  | cons b rest ih =>
    rw [scriptsHtml, List.map_cons, Html.allPieces, List.filterMap_append, List.map_cons]
    exact congrArg (List.cons _) ih

/-- The raw texts of a document are its scripts. -/
theorem documentPieces_raw {sections : Sections} {options : ExportOptions} {pieces : List Piece}
    (h : documentPieces sections options = .ok pieces) :
    ∃ body, sectionFragments ⟨sections, options⟩ (sections.home?.map Section.id) sections.ordered =
        .ok body ∧
      pieces.filterMap Piece.raw? =
        (routerScript sections :: body.scripts).map fun b => b.text ++ "\n" := by
  unfold documentPieces at h
  split at h
  · cases h
  obtain ⟨body, hbody, hpieces⟩ := bind_ok h
  cases hpieces
  refine ⟨body, hbody, ?_⟩
  have hmarkup := (sectionFragments_sound hbody).pieces_raw 2
  have hscripts := scriptsHtml_pieces_raw (routerScript sections :: body.scripts) 2
  have hhead := headHtml_pieces_raw options.title 1
  simp only [Html.pieces, Html.allPieces, Html.allPieces_append, List.append_nil, List.cons_append,
    List.filterMap_append, List.filterMap_cons, List.filterMap_nil, Nat.zero_add, hmarkup, hscripts,
    hhead, Piece.raw?, List.nil_append]

end RawTexts

/-- Line breaks change nothing but the layout. With one list of pieces for every layout, a document
without line breaks is the texts of the pieces, and one with line breaks has every line behind its
indentations and before a line feed; the texts that are never indented are the scripts. Both are
refused for the same reason. A document is written step by step: the steps of an element and of a
section write what it is rendered as, come back to the depth where they begin, never step back from
it on the way, and add to the end of what was written and kept before. -/
theorem pretty_changes_layout_only (sections : Sections) (options : ExportOptions) :
    (∀ pretty indent, compileDocument sections (options.laidOut pretty indent) =
      (documentPieces sections options).map fun pieces =>
        if pretty then String.join (pieces.map (Piece.indented indent))
        else String.join (pieces.map Piece.text)) ∧
    (∀ pieces, documentPieces sections options = .ok pieces →
      ∃ scripts : List ScriptBlock,
        pieces.filterMap Piece.raw? = scripts.map fun b => b.text ++ "\n") ∧
    compileDocument sections options = (writeDocument sections options).map Writer.output ∧
    (∀ ctx visible s, Emits (sectionSteps ctx visible s) (sectionFragment ctx visible s) ∧
      ∀ steps, sectionSteps ctx visible s = .ok steps → Framed steps) ∧
    ∀ ctx placement (e : Element), Emits (e.steps ctx placement) (e.render ctx placement) ∧
      ∀ steps, e.steps ctx placement = .ok steps → Framed steps := by
  have hframed {x : Except CompileError (List WriterStep)} {y : Except CompileError Fragment}
      (h : Emits x y) : Emits x y ∧ ∀ steps, x = .ok steps → Framed steps := by
    refine ⟨h, ?_⟩
    rintro steps rfl
    obtain ⟨f, -, hf⟩ := h.of_ok
    exact hf.framed
  refine ⟨fun pretty indent => ?_, fun pieces hpieces => ?_, ?_, fun ctx visible s => ?_,
    fun ctx placement e => ?_⟩
  · rw [compileDocument, documentPieces_laidOut]
    refine congrArg (Except.map · _) (funext fun pieces => ?_)
    cases pretty with
    | true => exact writePieces_pretty rfl pieces
    | false => exact writePieces_compact rfl pieces
  · obtain ⟨body, -, hraw⟩ := documentPieces_raw hpieces
    exact ⟨_, hraw⟩
  · exact (writeDocument_output sections options).symm
  · exact hframed (sectionSteps_emit ctx visible s)
  · exact hframed (e.steps_emit ctx placement)

theorem pretty_changes_layout_only_markup :
    ∃ (pieces : List Piece) (scripts : List ScriptBlock),
      compileDocument markupSections (markupOptions.laidOut true "  ") =
        .ok (String.join (pieces.map (Piece.indented "  "))) ∧
      compileDocument markupSections (markupOptions.laidOut false "  ") =
        .ok (String.join (pieces.map Piece.text)) ∧
      pieces.filterMap Piece.raw? = scripts.map fun b => b.text ++ "\n" := by
  have hok : (documentPieces markupSections markupOptions).isOk = true := by decide +kernel
  obtain ⟨pieces, hpieces⟩ := ok_of_isOk hok
  obtain ⟨hlayout, hraw, -⟩ := pretty_changes_layout_only markupSections markupOptions
  obtain ⟨scripts, hscripts⟩ := hraw pieces hpieces
  have hpretty := hlayout true "  "
  have hcompact := hlayout false "  "
  rw [hpieces] at hpretty hcompact
  exact ⟨pieces, scripts, hpretty, hcompact, hscripts⟩

end PageBuilder
