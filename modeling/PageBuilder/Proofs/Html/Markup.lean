import PageBuilder.Html.Context
import PageBuilder.Proofs.Html.Token

/-!
The markup that documents are made of: which tags and attributes there are, and that a tree of them
is read back as it was built, every text and every value in its own place.
-/

namespace PageBuilder

/-- The tags of elements with a content. -/
def pairedTags : List String :=
  ["html", "head", "title", "body", "div", "p", "h1", "h2", "h3", "h4", "h5", "h6", "button", "a",
    "video", "span", "section", "header", "nav", "form", "label", "textarea"]

/-- All tags that templates write. -/
def templateTags : List String := pairedTags ++ voidTags ++ rawTags

/-- The attributes whose values are neither addresses nor code. -/
def plainAttrs : List String :=
  ["alt", "aria-hidden", "aria-label", "aria-live", "aria-modal", "charset", "class", "content",
    "controls", "data-cards-carousel", "data-carousel", "data-catalog", "data-form", "data-href",
    "data-index", "data-module", "data-section-id", "data-slug", "hidden", "id", "lang", "loading",
    "name", "novalidate", "placeholder", "playsinline", "rel", "required", "role", "style",
    "target", "type"]

/-- The attributes whose values are addresses. -/
def addressAttrs : List String := ["href", "src", "poster"]

/-- All attributes that templates write. -/
def templateAttrs : List String := plainAttrs ++ addressAttrs ++ ["onclick"]

/-- The entities that templates write. -/
def templateEntities : List String := ["#8249", "#8250", "times"]

/-- The attributes of templates. An address has been checked, or leads to a section. -/
inductive Attr.Sound : Attr → Prop
  | plain {name : String} (value : Option String) : name ∈ plainAttrs → Attr.Sound ⟨name, value⟩
  | address {name : String} (url : String) : name ∈ addressAttrs →
      Attr.Sound (attr name (safeUrl url))
  | fragment (slug : String) : Attr.Sound (attr "href" ("#" ++ slug))
  | opensSection (id : String) : Attr.Sound (attr "onclick" (scriptCall "navigateToSection" id))
  | opensWindow (url : String) :
      Attr.Sound (attr "onclick" (scriptCall "window.open" (safeUrl url)))

inductive Inline.Sound : Inline → Prop
  | text (s : String) : Inline.Sound (.text s)
  | entity {name : String} : name ∈ templateEntities → Inline.Sound (.entity name)
  | void {tag : String} {attrs : List Attr} (slash : Bool) : tag ∈ voidTags →
      (∀ a ∈ attrs, a.Sound) → Inline.Sound (.void tag attrs slash)
  | span {tag : String} {attrs : List Attr} {children : List Inline} : tag ∈ pairedTags →
      (∀ a ∈ attrs, a.Sound) → (∀ i ∈ children, Inline.Sound i) →
      Inline.Sound (.span tag attrs children)

/-- Markup of templates. Style sheets and scripts hold no end tag, and they are there only where
they are allowed. -/
inductive Html.Sound (raw : Bool) : Html → Prop
  | line {content : Inline} : content.Sound → Html.Sound raw (.line content)
  | block {tag : String} {attrs : List Attr} {children : List Html} : tag ∈ pairedTags →
      (∀ a ∈ attrs, a.Sound) → (∀ h ∈ children, Html.Sound raw h) →
      Html.Sound raw (.block tag attrs children)
  | style {rules : List String} : raw = true → (∀ rule ∈ rules, '<' ∉ rule.toList) →
      Html.Sound raw (.style rules)
  | script (name : String) {body : String} : raw = true → hasEndTag body.toList = false →
      Html.Sound raw (.script name body)

/-- What a reader sees of sound markup. Outside of scripts no bracket and no quote is left that is
not part of a tag. -/
inductive Token.Sound : Token → Prop
  | char {c : Char} : IsPlain c → Token.Sound (.char c)
  | startTag {name : String} {attrs : List Attr} : name ∈ templateTags → (∀ a ∈ attrs, a.Sound) →
      Token.Sound (.startTag name (attrs.map Attr.written))
  | endTag {name : String} : name ∈ templateTags → Token.Sound (.endTag name)
  | raw {name : String} (attrs : List Attr) (contents : List Char) : name ∈ rawTags →
      Token.Sound (.raw name attrs contents)

def charTokens (s : String) : List Token := s.toList.map .char

mutual

/-- Markup on one line as a reader sees it. -/
def Inline.tokens : Inline → List Token
  | .text s => charTokens (escapeHtml s)
  | .entity name => charTokens ("&" ++ name ++ ";")
  | .void tag attrs _ => [.startTag tag (attrs.map Attr.written)]
  | .span tag attrs children =>
    .startTag tag (attrs.map Attr.written) :: Inline.allTokens children ++ [.endTag tag]

def Inline.allTokens : List Inline → List Token
  | [] => []
  | i :: rest => i.tokens ++ Inline.allTokens rest

end

namespace LayoutStyle

/-- What stands in front of a line of a depth. -/
def before (style : LayoutStyle) (depth : Nat) : String :=
  if style.pretty then repeatText style.indent depth else ""

/-- What stands behind a line. -/
def behind (style : LayoutStyle) : String := if style.pretty then "\n" else ""

/-- The contents of a style sheet or a script, whose tags have lines of their own. -/
def contents (style : LayoutStyle) (depth : Nat) (body : String) : String :=
  style.behind ++ body ++ style.before depth

def lineTokens (style : LayoutStyle) (depth : Nat) (tokens : List Token) : List Token :=
  charTokens (style.before depth) ++ tokens ++ charTokens style.behind

/-- A style sheet or a script as a reader sees it. -/
def rawTokens (style : LayoutStyle) (depth : Nat) (tag : String) (attrs : List Attr)
    (body : String) : List Token :=
  [.startTag tag (attrs.map Attr.written),
    .raw tag (attrs.map Attr.written) (style.contents depth body).toList, .endTag tag]

end LayoutStyle

mutual

/-- Markup at a depth as a reader sees it. -/
def Html.tokens (style : LayoutStyle) (depth : Nat) : Html → List Token
  | .line content => style.lineTokens depth content.tokens
  | .block tag attrs children =>
    style.lineTokens depth [.startTag tag (attrs.map Attr.written)] ++
      Html.allTokens style (depth + 1) children ++ style.lineTokens depth [.endTag tag]
  | .style rules =>
    style.lineTokens depth (style.rawTokens depth "style" []
      (writePieces style (rules.map (Piece.line (depth + 1)))))
  | .script name body =>
    style.lineTokens depth
      (style.rawTokens depth "script" [attr "data-module" name] (body ++ "\n"))

def Html.allTokens (style : LayoutStyle) (depth : Nat) : List Html → List Token
  | [] => []
  | h :: rest => h.tokens style depth ++ Html.allTokens style depth rest

end

section Names

theorem templateTags_names : ∀ tag ∈ templateTags, IsName tag := by decide

theorem templateAttrs_names : ∀ name ∈ templateAttrs, IsName name := by decide

theorem templateEntities_plain :
    ∀ name ∈ templateEntities, ∀ c ∈ ("&" ++ name ++ ";").toList, IsPlain c := by
  decide

theorem mem_templateTags {tag : String} (h : tag ∈ pairedTags ∨ tag ∈ voidTags) :
    tag ∈ templateTags := by
  rw [templateTags, List.mem_append, List.mem_append]
  exact Or.inl h

theorem pairedTags_not_raw : ∀ tag ∈ pairedTags, tag ∉ rawTags := by decide

theorem voidTags_not_raw : ∀ tag ∈ voidTags, tag ∉ rawTags := by decide

theorem pairedTags_not_void : ∀ tag ∈ pairedTags, tag ∉ voidTags := by decide

theorem Attr.Sound.name_mem {a : Attr} (h : a.Sound) : a.name ∈ templateAttrs := by
  cases h with
  | plain value hname => simp [templateAttrs, hname]
  | address url hname => simp [templateAttrs, hname, attr]
  | fragment slug => exact (by decide : "href" ∈ templateAttrs)
  | opensSection id => exact (by decide : "onclick" ∈ templateAttrs)
  | opensWindow url => exact (by decide : "onclick" ∈ templateAttrs)

theorem Attr.Sound.isName {a : Attr} (h : a.Sound) : IsName a.name :=
  templateAttrs_names _ h.name_mem

end Names

section Layout

variable {style : LayoutStyle}

theorem toList_repeatText {s : String} {p : Char → Prop} (h : ∀ c ∈ s.toList, p c) (n : Nat) :
    ∀ c ∈ (repeatText s n).toList, p c := by
  induction n with
  | zero => simp [repeatText]
  | succ n ih =>
    intro c hc
    rw [repeatText, String.toList_append, List.mem_append] at hc
    exact hc.elim (h c) (ih c)

/-- Between lines there are line feeds and copies of the indentation. -/
theorem LayoutStyle.before_all {p : Char → Prop} (h : ∀ c ∈ style.indent.toList, p c)
    (depth : Nat) : ∀ c ∈ (style.before depth).toList, p c := by
  unfold before
  split
  · exact toList_repeatText h depth
  · simp

theorem LayoutStyle.behind_toList (style : LayoutStyle) :
    style.behind.toList = [] ∨ style.behind.toList = ['\n'] := by
  unfold behind
  split
  · exact Or.inr (by decide)
  · exact Or.inl rfl

theorem Piece.write_line (style : LayoutStyle) (depth : Nat) (text : String) :
    (Piece.line depth text).write style = style.before depth ++ text ++ style.behind := by
  unfold Piece.write LayoutStyle.before LayoutStyle.behind
  cases style.pretty <;> simp

theorem writePieces_append (style : LayoutStyle) (first second : List Piece) :
    writePieces style (first ++ second) = writePieces style first ++ writePieces style second := by
  induction first with
  | nil => simp [writePieces]
  | cons p first ih => simp only [List.cons_append, writePieces, ih, String.append_assoc]

theorem Reads.charTokens {s : String} (h : ∀ c ∈ s.toList, c ≠ '<') :
    Reads s.toList (charTokens s) :=
  Reads.chars fun hmem => h _ hmem rfl

theorem LayoutStyle.behind_plain (style : LayoutStyle) : ∀ c ∈ style.behind.toList, IsPlain c := by
  rcases style.behind_toList with htext | htext <;> rw [htext] <;> decide

/-- A line is read as what stands on it, between its white space. -/
theorem Reads.line (hindent : ∀ c ∈ style.indent.toList, c ≠ '<') (depth : Nat) {text : String}
    {tokens : List Token} (h : Reads text.toList tokens) :
    Reads ((Piece.line depth text).write style).toList (style.lineTokens depth tokens) := by
  have hbefore := Reads.charTokens (style.before_all hindent depth)
  have hbehind := Reads.charTokens fun c hc => (style.behind_plain c hc).1
  rw [Piece.write_line, String.toList_append, String.toList_append]
  exact (hbefore.append h).append hbehind

theorem Reads.rawLines (hindent : ∀ c ∈ style.indent.toList, c ≠ '<') (depth : Nat) (tag : String)
    (attrs : List Attr) {body : String} (htag : tag ∈ rawTags) (hattrs : ∀ a ∈ attrs, a.Sound)
    (h : hasEndTag (style.contents depth body).toList = false) :
    Reads ((Piece.line depth (PageBuilder.startTag tag attrs)).write style ++ body ++
        (Piece.line depth (PageBuilder.endTag tag)).write style).toList
      (style.lineTokens depth (style.rawTokens depth tag attrs body)) := by
  have hname := templateTags_names tag (List.mem_append_right _ htag)
  have hraw := Reads.rawElement hname (fun a ha => (hattrs a ha).isName) htag h
  have hbefore := Reads.charTokens (style.before_all hindent depth)
  have hbehind := Reads.charTokens fun c hc => (style.behind_plain c hc).1
  -- the line feed behind the start tag and the indentation of the end tag are contents, too
  have htext : ((Piece.line depth (PageBuilder.startTag tag attrs)).write style ++ body ++
      (Piece.line depth (PageBuilder.endTag tag)).write style).toList =
      (style.before depth).toList ++ ((PageBuilder.startTag tag attrs).toList ++
        (style.contents depth body).toList ++ (PageBuilder.endTag tag).toList) ++
        style.behind.toList := by
    simp [Piece.write_line, LayoutStyle.contents]
  rw [htext]
  exact (hbefore.append hraw).append hbehind

end Layout

section Reading

theorem Inline.toList_writeAll (children : List Inline) :
    (Inline.writeAll children).toList = children.flatMap fun i => i.write.toList := by
  induction children with
  | nil => rfl
  | cons i rest ih => rw [Inline.writeAll, String.toList_append, ih, List.flatMap_cons]

theorem Inline.allTokens_eq (children : List Inline) :
    Inline.allTokens children = children.flatMap Inline.tokens := by
  induction children with
  | nil => rfl
  | cons i rest ih => rw [Inline.allTokens, ih, List.flatMap_cons]

theorem Html.toList_allPieces (style : LayoutStyle) (depth : Nat) (children : List Html) :
    (writePieces style (Html.allPieces depth children)).toList =
      children.flatMap fun x => (writePieces style (x.pieces depth)).toList := by
  induction children with
  | nil => rfl
  | cons x rest ih =>
    rw [Html.allPieces, writePieces_append, String.toList_append, ih, List.flatMap_cons]

theorem Html.allTokens_eq (style : LayoutStyle) (depth : Nat) (children : List Html) :
    Html.allTokens style depth children = children.flatMap (Html.tokens style depth) := by
  induction children with
  | nil => rfl
  | cons x rest ih => rw [Html.allTokens, ih, List.flatMap_cons]

theorem Inline.Sound.reads {i : Inline} (h : i.Sound) : Reads i.write.toList i.tokens := by
  induction h with
  | text s =>
    rw [Inline.write, Inline.tokens]
    exact Reads.charTokens fun c hc => (escapeHtml_plain s hc).1
  | entity hname =>
    rw [Inline.write, Inline.tokens]
    exact Reads.charTokens (fun c hc => (templateEntities_plain _ hname c hc).1)
  | void slash htag hattrs =>
    rw [Inline.write, Inline.tokens]
    exact Reads.void (templateTags_names _ (mem_templateTags (Or.inr htag)))
      (fun a ha => (hattrs a ha).isName) (voidTags_not_raw _ htag) slash
  | span htag hattrs hchildren ih =>
    have hname := templateTags_names _ (mem_templateTags (Or.inl htag))
    have hstart := Reads.startTag hname (fun a ha => (hattrs a ha).isName)
      (pairedTags_not_raw _ htag)
    rw [Inline.write, Inline.tokens, String.toList_append, String.toList_append,
      Inline.toList_writeAll, Inline.allTokens_eq]
    exact (hstart.append (Reads.flatMap ih)).append (Reads.endTag hname)

theorem Html.scriptContents {style : LayoutStyle} (hindent : ∀ c ∈ style.indent.toList, c ≠ '<')
    (depth : Nat) {body : String} (h : hasEndTag body.toList = false) :
    hasEndTag (style.contents depth (body ++ "\n")).toList = false := by
  have htext : (style.contents depth (body ++ "\n")).toList =
      style.behind.toList ++ (body.toList ++ '\n' :: (style.before depth).toList) := by
    simp [LayoutStyle.contents]
  have hbefore : '<' ∉ '\n' :: (style.before depth).toList := by
    rw [List.mem_cons, not_or]
    exact ⟨by decide, fun hmem => style.before_all hindent depth _ hmem rfl⟩
  rw [htext, hasEndTag_append_of_not_mem _ fun hmem => (style.behind_plain _ hmem).1 rfl,
    hasEndTag_append _ (by simp), h, hasEndTag_of_not_mem hbefore]
  rfl

theorem Html.rulesText {style : LayoutStyle} (hindent : ∀ c ∈ style.indent.toList, c ≠ '<')
    (depth : Nat) {rules : List String} (h : ∀ rule ∈ rules, '<' ∉ rule.toList) :
    '<' ∉ (writePieces style (rules.map (Piece.line depth))).toList := by
  induction rules with
  | nil => simp [writePieces]
  | cons rule rest ih =>
    obtain ⟨hfirst, hrest⟩ := List.forall_mem_cons.1 h
    rw [List.map_cons, writePieces, Piece.write_line]
    simp only [String.toList_append, List.mem_append, not_or]
    refine ⟨⟨⟨?_, hfirst⟩, ?_⟩, ih hrest⟩
    · exact fun hmem => style.before_all hindent depth _ hmem rfl
    · exact fun hmem => (style.behind_plain _ hmem).1 rfl

/-- Sound markup is read back as it was built. -/
theorem Html.Sound.reads {style : LayoutStyle} (hindent : ∀ c ∈ style.indent.toList, c ≠ '<')
    {raw : Bool} {x : Html} (h : x.Sound raw) (depth : Nat) :
    Reads (writePieces style (x.pieces depth)).toList (x.tokens style depth) := by
  -- on the tree, at any depth: children stand one step further in
  induction h generalizing depth with
  | line hcontent =>
    rw [Html.pieces, Html.tokens, writePieces, writePieces, String.append_empty]
    exact Reads.line hindent depth hcontent.reads
  | block htag hattrs hchildren ih =>
    have hname := templateTags_names _ (mem_templateTags (Or.inl htag))
    have hstart := Reads.startTag hname (fun a ha => (hattrs a ha).isName)
      (pairedTags_not_raw _ htag)
    have hinner := Reads.flatMap fun x hx => ih x hx (depth + 1)
    rw [← Html.toList_allPieces, ← Html.allTokens_eq] at hinner
    rw [Html.pieces, Html.tokens, List.cons_append, writePieces, writePieces_append, writePieces,
      writePieces, String.append_empty, ← String.append_assoc, String.toList_append,
      String.toList_append]
    exact ((Reads.line hindent depth hstart).append hinner).append
      (Reads.line hindent depth (Reads.endTag hname))
  | @style rules hraw hrules =>
    let text := writePieces style (rules.map (Piece.line (depth + 1)))
    have hcontents : '<' ∉ (style.contents depth text).toList := by
      simp only [LayoutStyle.contents, String.toList_append, List.mem_append, not_or]
      refine ⟨⟨?_, Html.rulesText hindent (depth + 1) hrules⟩, ?_⟩
      · exact fun hmem => (style.behind_plain _ hmem).1 rfl
      · exact fun hmem => style.before_all hindent depth _ hmem rfl
    have hread := Reads.rawLines hindent depth "style" [] (by decide) (by simp)
      (hasEndTag_of_not_mem hcontents)
    have htags : startTag "style" [] = "<style>" ∧ endTag "style" = "</style>" := by decide
    rw [htags.1, htags.2] at hread
    rw [Html.pieces, Html.tokens, List.cons_append, writePieces, writePieces_append, writePieces,
      writePieces, String.append_empty, ← String.append_assoc]
    exact hread
  | script name hraw hbody =>
    have hattrs : ∀ a ∈ [attr "data-module" name], a.Sound := by
      intro a ha
      rw [List.mem_singleton.1 ha]
      exact .plain _ (by decide)
    have hread := Reads.rawLines hindent depth "script" _ (by decide) hattrs
      (Html.scriptContents hindent depth hbody)
    have htag : endTag "script" = "</script>" := by decide
    rw [htag] at hread
    rw [Html.pieces, Html.tokens, writePieces, writePieces, writePieces, writePieces,
      String.append_empty, ← String.append_assoc]
    exact hread

end Reading

section Shape

variable {style : LayoutStyle} {raw : Bool} {x : Html}

theorem Closed.line (depth : Nat) {tokens : List Token} (h : Closed tokens) :
    Closed (style.lineTokens depth tokens) :=
  ((Closed.chars _).append h).append (Closed.chars _)

theorem Inline.Sound.closed {i : Inline} (h : i.Sound) : Closed i.tokens := by
  induction h with
  | text s => exact Closed.chars _
  | entity hname => exact Closed.chars _
  | void slash htag hattrs => exact Closed.void htag _
  | span htag hattrs hchildren ih =>
    rw [Inline.tokens, Inline.allTokens_eq]
    exact Closed.element (pairedTags_not_void _ htag) _ (Closed.flatMap ih)

/-- Sound markup closes what it opens, but for the void tags. -/
theorem Html.Sound.closed (h : x.Sound raw) (depth : Nat) :
    Closed (x.tokens style depth) := by
  induction h generalizing depth with
  | line hcontent => exact Closed.line depth hcontent.closed
  | @block tag attrs children htag hattrs hchildren ih =>
    have hinner : Closed (Html.allTokens style (depth + 1) children) := by
      rw [Html.allTokens_eq]
      exact Closed.flatMap fun x hx => ih x hx (depth + 1)
    -- the white space around the two tags counts as content of the element or stands beside it
    have hwithin := Closed.element (pairedTags_not_void _ htag) (attrs.map Attr.written)
      (((Closed.chars style.behind.toList).append hinner).append
        (Closed.chars (style.before depth).toList))
    have haround := ((Closed.chars (style.before depth).toList).append hwithin).append
      (Closed.chars style.behind.toList)
    simpa [Html.tokens, LayoutStyle.lineTokens, charTokens] using haround
  | style hraw hrules =>
    exact Closed.line depth (Closed.element (by decide) _ (Closed.raw _ _ _))
  | script name hraw hbody =>
    exact Closed.line depth (Closed.element (by decide) _ (Closed.raw _ _ _))

theorem charTokens_sound {s : String} (h : ∀ c ∈ s.toList, IsPlain c) :
    ∀ t ∈ charTokens s, t.Sound := by
  intro t ht
  obtain ⟨c, hc, rfl⟩ := List.mem_map.1 ht
  exact .char (h c hc)

theorem LayoutStyle.lineTokens_sound (hindent : ∀ c ∈ style.indent.toList, IsPlain c)
    (depth : Nat) {tokens : List Token} (h : ∀ t ∈ tokens, t.Sound) :
    ∀ t ∈ style.lineTokens depth tokens, t.Sound := by
  intro t ht
  simp only [lineTokens, List.mem_append] at ht
  rcases ht with (ht | ht) | ht
  · exact charTokens_sound (style.before_all hindent depth) t ht
  · exact h t ht
  · exact charTokens_sound style.behind_plain t ht

theorem Token.Sound.element {name : String} {attrs : List Attr} {inner : List Token}
    (hname : name ∈ templateTags) (hattrs : ∀ a ∈ attrs, a.Sound) (hinner : ∀ t ∈ inner, t.Sound) :
    ∀ t ∈ .startTag name (attrs.map Attr.written) :: inner ++ [.endTag name], t.Sound := by
  intro t ht
  rcases List.mem_append.1 ht with ht | ht
  · rcases List.mem_cons.1 ht with rfl | ht
    · exact .startTag hname hattrs
    · exact hinner t ht
  · rw [List.mem_singleton.1 ht]
    exact .endTag hname

theorem LayoutStyle.rawTokens_sound (depth : Nat) {tag : String} {attrs : List Attr} (body : String)
    (htag : tag ∈ rawTags) (hattrs : ∀ a ∈ attrs, a.Sound) :
    ∀ t ∈ style.rawTokens depth tag attrs body, t.Sound := by
  have hname : tag ∈ templateTags := List.mem_append_right _ htag
  have hinner : ∀ t ∈ [Token.raw tag (attrs.map Attr.written) (style.contents depth body).toList],
      t.Sound := List.forall_mem_singleton.2 (.raw _ _ htag)
  exact Token.Sound.element hname hattrs hinner

theorem Inline.Sound.tokens_sound {i : Inline} (h : i.Sound) : ∀ t ∈ i.tokens, t.Sound := by
  induction h with
  | text s => exact charTokens_sound fun c hc => escapeHtml_plain s hc
  | entity hname => exact charTokens_sound (templateEntities_plain _ hname)
  | void slash htag hattrs =>
    intro t ht
    rw [List.mem_singleton.1 ht]
    exact .startTag (mem_templateTags (Or.inr htag)) hattrs
  | span htag hattrs hchildren ih =>
    refine Token.Sound.element (mem_templateTags (Or.inl htag)) hattrs ?_
    rw [Inline.allTokens_eq]
    intro t ht
    obtain ⟨i, hi, ht⟩ := List.mem_flatMap.1 ht
    exact ih i hi t ht

/-- Whatever texts and values are in sound markup, a reader sees the tags and attributes of
templates, and plain characters. -/
theorem Html.Sound.tokens_sound (hindent : ∀ c ∈ style.indent.toList, IsPlain c)
    (h : x.Sound raw) (depth : Nat) : ∀ t ∈ x.tokens style depth, t.Sound := by
  induction h generalizing depth with
  | line hcontent => exact style.lineTokens_sound hindent depth hcontent.tokens_sound
  | block htag hattrs hchildren ih =>
    intro t ht
    have hname := mem_templateTags (Or.inl htag)
    rw [Html.tokens, List.mem_append, List.mem_append, Html.allTokens_eq] at ht
    rcases ht with (ht | ht) | ht
    · refine style.lineTokens_sound hindent depth ?_ t ht
      intro t ht
      rw [List.mem_singleton.1 ht]
      exact .startTag hname hattrs
    · obtain ⟨x, hx, ht⟩ := List.mem_flatMap.1 ht
      exact ih x hx (depth + 1) t ht
    · refine style.lineTokens_sound hindent depth ?_ t ht
      intro t ht
      rw [List.mem_singleton.1 ht]
      exact .endTag hname
  | style hraw hrules =>
    exact style.lineTokens_sound hindent depth (style.rawTokens_sound depth _ (by decide) (by simp))
  | script name hraw hbody =>
    refine style.lineTokens_sound hindent depth (style.rawTokens_sound depth _ (by decide) ?_)
    intro a ha
    rw [List.mem_singleton.1 ha]
    exact .plain _ (by decide)

theorem charTokens_raw (s : String) : (charTokens s).filterMap Token.raw? = [] := by
  unfold charTokens
  rw [List.filterMap_map, List.filterMap_eq_nil_iff]
  exact fun c _ => rfl

theorem LayoutStyle.lineTokens_raw (depth : Nat) (tokens : List Token) :
    (style.lineTokens depth tokens).filterMap Token.raw? = tokens.filterMap Token.raw? := by
  simp only [lineTokens, List.filterMap_append, charTokens_raw, List.nil_append,
    List.append_nil]

theorem Inline.tokens_raw {i : Inline} (h : i.Sound) : i.tokens.filterMap Token.raw? = [] := by
  induction h with
  | text s => exact charTokens_raw _
  | entity hname => exact charTokens_raw _
  | void slash htag hattrs => rfl
  | span htag hattrs hchildren ih =>
    rw [Inline.tokens, Inline.allTokens_eq, List.filterMap_append, List.filterMap_cons_none rfl,
      List.filterMap_flatMap]
    simp only [List.flatMap_eq_nil_iff.2 ih]
    rfl

/-- Where style sheets and scripts are not allowed, a reader sees none. -/
theorem Html.Sound.no_raw (h : x.Sound false) (depth : Nat) :
    (x.tokens style depth).filterMap Token.raw? = [] := by
  generalize hraw : false = raw at h
  induction h generalizing depth with
  | line hcontent =>
    rw [Html.tokens, style.lineTokens_raw]
    exact Inline.tokens_raw hcontent
  | block htag hattrs hchildren ih =>
    rw [Html.tokens, List.filterMap_append, List.filterMap_append, style.lineTokens_raw,
      style.lineTokens_raw, Html.allTokens_eq, List.filterMap_flatMap,
      List.flatMap_eq_nil_iff.2 fun x hx => ih x hx (depth + 1)]
    rfl
  | style hallowed => rw [← hraw] at hallowed; cases hallowed
  | script name hallowed => rw [← hraw] at hallowed; cases hallowed

end Shape

end PageBuilder
