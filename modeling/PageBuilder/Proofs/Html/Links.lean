import PageBuilder.Proofs.Html.Address
import PageBuilder.Proofs.Html.Document
import PageBuilder.Proofs.Json.Literal

/-!
Where a document leads. Every address in it has been checked or leads to one of its sections, so it
runs a script exactly when it is one of those that the check does not see through.
-/

namespace PageBuilder

/-- The code that opens a window with an argument. -/
def windowCall (argument : List Char) : List Char := "window.open(".toList ++ (argument ++ [')'])

/-- An address that a reader of these tokens can be sent to, as a browser gets it. -/
inductive Link (tokens : List Token) : String → Prop
  | address {tag : String} {attrs : List Attr} {name value : String} {url : String} :
      .startTag tag attrs ∈ tokens → attr name value ∈ attrs → name ∈ addressAttrs →
      decodeEntities value.toList = url.toList → Link tokens url
  | window {tag : String} {attrs : List Attr} {value : String} {argument : List Char}
      {url : String} :
      .startTag tag attrs ∈ tokens → attr "onclick" value ∈ attrs →
      decodeEntities value.toList = windowCall argument →
      Json.parse? (String.ofList argument) = some (.str url) → Link tokens url

section Checked

theorem safeUrl_safeUrl (url : String) : safeUrl (safeUrl url) = safeUrl url := by
  by_cases h : Caught url.toList
  · rw [safeUrl_of_caught h]
    exact safeUrl_of_not_caught (by unfold Caught; decide)
  · rw [safeUrl_of_not_caught h, safeUrl_of_not_caught h]

/-- The way to a section of the document is no scheme. -/
theorem safeUrl_fragment (slug : String) : safeUrl ("#" ++ slug) = "#" ++ slug := by
  apply safeUrl_of_not_caught
  rintro ⟨scheme, hscheme, hbegins⟩
  have hmark : ∀ scheme ∈ scriptSchemes, '#' ∉ scheme.toList := by decide
  have htext : (trimStartChars ("#" ++ slug).toList).map Char.toLower =
      '#' :: slug.toList.map Char.toLower := by
    rw [String.toList_append]
    rfl
  rw [htext] at hbegins
  have hfirst : scheme.toList <+: [] := prefix_before hbegins (hmark scheme hscheme)
  obtain ⟨a, t, hletters, -⟩ := scheme_cons hscheme
  rw [hletters, List.prefix_nil] at hfirst
  cases hfirst

theorem runsScript_iff_of_checked {url : String} (h : safeUrl url = url) :
    RunsScript url.toList ↔ Evades url.toList := by
  have hiff := runsScript_safeUrl_iff url
  rwa [h] at hiff

end Checked

section Attributes

variable {a : Attr} {name value : String}

theorem Attr.written_eq (h : a.written = attr name value) :
    ∃ source, a = attr name source ∧ decodeEntities value.toList = source.toList := by
  obtain ⟨own, source⟩ := a
  obtain ⟨rfl, hvalue⟩ := Attr.mk.inj h
  obtain ⟨text, rfl, rfl⟩ := Option.map_eq_some_iff.1 hvalue
  exact ⟨text, rfl, decodeEntities_escapeHtml text⟩

/-- An attribute of a tag is a sound one with its value escaped. -/
theorem Token.Sound.source {tag : String} {attrs : List Attr} (h : (Token.startTag tag attrs).Sound)
    (hattr : attr name value ∈ attrs) :
    ∃ source, (attr name source).Sound ∧ decodeEntities value.toList = source.toList := by
  generalize htoken : Token.startTag tag attrs = t at h
  cases h with
  | startTag _ hsources =>
    obtain ⟨-, rfl⟩ := Token.startTag.inj htoken
    obtain ⟨a, ha, hwritten⟩ := List.mem_map.1 hattr
    obtain ⟨source, rfl, hdecoded⟩ := Attr.written_eq hwritten
    exact ⟨source, hsources _ ha, hdecoded⟩
  | char => cases htoken
  | endTag => cases htoken
  | raw => cases htoken

theorem Attr.Sound.checked {url : String} (h : (attr name url).Sound)
    (hname : name ∈ addressAttrs) : safeUrl url = url := by
  have hplain : ∀ name ∈ addressAttrs, name ∉ plainAttrs := by decide
  have hcode : "onclick" ∉ addressAttrs := by decide
  generalize ha : attr name url = a at h
  cases h with
  | plain v hown =>
    obtain ⟨rfl, -⟩ := Attr.mk.inj ha
    exact absurd hown (hplain _ hname)
  | address source _ =>
    obtain ⟨-, hurl⟩ := Attr.mk.inj ha
    rw [Option.some.inj hurl]
    exact safeUrl_safeUrl source
  | fragment slug =>
    obtain ⟨-, hurl⟩ := Attr.mk.inj ha
    rw [Option.some.inj hurl]
    exact safeUrl_fragment slug
  | opensSection id =>
    obtain ⟨rfl, -⟩ := Attr.mk.inj ha
    exact absurd hname hcode
  | opensWindow source =>
    obtain ⟨rfl, -⟩ := Attr.mk.inj ha
    exact absurd hname hcode

theorem windowCall_inj {first second : List Char} :
    windowCall first = windowCall second ↔ first = second := by
  unfold windowCall
  rw [List.append_cancel_left_eq, List.append_cancel_right_eq]

theorem scriptCall_window (url : String) :
    (scriptCall "window.open" url).toList = windowCall (scriptJson (.str url)).toList := by
  unfold scriptCall windowCall
  simp only [String.toList_append, List.append_assoc]
  rfl

theorem scriptCall_section (id : String) (argument : List Char) :
    (scriptCall "navigateToSection" id).toList.head? ≠ (windowCall argument).head? := by
  -- the two calls differ in their first letters
  have hletters : ("navigateToSection" ++ "(").toList.head? = some 'n' ∧
      "window.open(".toList.head? = some 'w' := by decide
  unfold scriptCall windowCall
  rw [String.append_assoc, String.toList_append, List.head?_append, List.head?_append,
    hletters.1, hletters.2, Option.some_or, Option.some_or]
  decide

/-- The argument of a call that opens a window is a checked address as JSON. -/
theorem Attr.Sound.windowArgument {code : String} {argument : List Char}
    (h : (attr "onclick" code).Sound) (hcode : code.toList = windowCall argument) :
    ∃ url, Json.parse? (String.ofList argument) = some (.str url) ∧ safeUrl url = url := by
  generalize ha : attr "onclick" code = a at h
  cases h with
  | plain v hown =>
    obtain ⟨rfl, -⟩ := Attr.mk.inj ha
    exact absurd hown (by decide)
  | address source hown =>
    obtain ⟨rfl, -⟩ := Attr.mk.inj ha
    exact absurd hown (by decide)
  | fragment slug =>
    have hname : "onclick" = "href" := congrArg Attr.name ha
    simp at hname
  | opensSection id =>
    obtain ⟨-, hvalue⟩ := Attr.mk.inj ha
    rw [Option.some.inj hvalue] at hcode
    exact absurd (congrArg List.head? hcode) (scriptCall_section id argument)
  | opensWindow source =>
    obtain ⟨-, hvalue⟩ := Attr.mk.inj ha
    rw [Option.some.inj hvalue, scriptCall_window, windowCall_inj] at hcode
    refine ⟨safeUrl source, ?_, safeUrl_safeUrl source⟩
    rw [← hcode, String.ofList_toList]
    exact parse?_scriptJson_str (safeUrl source)

end Attributes

section Document

variable {sections : Sections} {options : ExportOptions} {html : String}

/-- An address in a document whose indentation holds no brackets and quotes runs a script exactly
when it hides its scheme from the check: behind a control character that is no white space, or with
a tab or a line break between its letters. Whatever opens a window is given its address as JSON. -/
theorem link_runsScript_iff (h : compileDocument sections options = .ok html)
    (hindent : ∀ c ∈ options.indent.toList, IsPlain c) :
    ∃ rest tokens, html = doctype ++ rest ∧ readTokens .content rest.toList = some tokens ∧
      (∀ url, Link tokens url → (RunsScript url.toList ↔ Evades url.toList)) ∧
      ∀ tag attrs value argument, .startTag tag attrs ∈ tokens → attr "onclick" value ∈ attrs →
        decodeEntities value.toList = windowCall argument →
        ∃ url, Json.parse? (String.ofList argument) = some (.str url) := by
  obtain ⟨body, rest, -, hhtml, hsound, hread⟩ := compileDocument_reads h hindent
  have htokens := documentTokens_sound hindent hsound
  refine ⟨rest, _, hhtml, hread, ?_, ?_⟩
  · intro url hlink
    apply runsScript_iff_of_checked
    cases hlink with
    | address htag hattr hname hdecoded =>
      obtain ⟨source, hsource, hvalue⟩ := (htokens _ htag).source hattr
      obtain rfl := String.toList_inj.1 (hdecoded.symm.trans hvalue)
      exact hsource.checked hname
    | window htag hattr hdecoded hparse =>
      obtain ⟨source, hsource, hvalue⟩ := (htokens _ htag).source hattr
      obtain ⟨checked, hchecked, hfixed⟩ := hsource.windowArgument (hvalue.symm.trans hdecoded)
      rw [hchecked, Option.some_inj, Json.str.injEq] at hparse
      exact hparse ▸ hfixed
  · intro tag attrs value argument htag hattr hdecoded
    obtain ⟨source, hsource, hvalue⟩ := (htokens _ htag).source hattr
    obtain ⟨url, hparse, -⟩ := hsource.windowArgument (hvalue.symm.trans hdecoded)
    exact ⟨url, hparse⟩

/-- What a reader sees of the sections is part of what it sees of the document. -/
theorem mem_documentTokens {body : Fragment} {t : Token}
    (h : t ∈ Html.allTokens options.layout 2 body.markup) :
    t ∈ documentTokens sections options body := by
  rw [Html.allTokens_eq] at h
  simp only [documentTokens, documentHtml, Html.tokens, Html.allTokens_eq, List.flatMap_cons,
    List.flatMap_append, Nat.zero_add, List.mem_append]
  simp only [h, true_or, or_true]

/-- A button with a control character in front of its address. -/
def evadingSections : Sections :=
  SortedMap.ofList [("home", { Section.home "home" "Home" with
    elements := [.mk ⟨"go", .button,
      SortedMap.ofList [("content", .str "Go"), ("url", .str "\x01javascript:alert(1)")], .empty,
      ⟨0, 0⟩, ⟨.auto, .auto⟩⟩ []] })]

theorem link_runsScript_iff_button :
    (∀ c ∈ ({} : ExportOptions).indent.toList, IsPlain c) ∧
      ∃ html rest tokens, compileDocument evadingSections {} = .ok html ∧
        html = doctype ++ rest ∧ readTokens .content rest.toList = some tokens ∧
        ∀ url, Link tokens url → (RunsScript url.toList ↔ Evades url.toList) := by
  have hindent : ∀ c ∈ ({} : ExportOptions).indent.toList, IsPlain c := by decide
  obtain ⟨html, h⟩ : ∃ html, compileDocument evadingSections {} = .ok html :=
    exists_document (by decide +kernel)
  obtain ⟨rest, tokens, hhtml, hread, hlinks, -⟩ := link_runsScript_iff h hindent
  exact ⟨hindent, html, rest, tokens, h, hhtml, hread, hlinks⟩

/-- The start of a tag that gives a value to an attribute. -/
def Token.gives (name value : String) : Token → Bool
  | .startTag _ attrs => attrs.any fun a => a.name == name && a.value == some value
  | _ => false

theorem Token.gives_iff {name value : String} {t : Token} :
    t.gives name value = true ↔ ∃ tag attrs, t = .startTag tag attrs ∧ attr name value ∈ attrs := by
  cases t with
  | startTag tag attrs =>
    simp only [gives, List.any_eq_true, Bool.and_eq_true, beq_iff_eq, Token.startTag.injEq]
    constructor
    · rintro ⟨⟨own, v⟩, ha, rfl, rfl⟩
      exact ⟨tag, attrs, ⟨rfl, rfl⟩, ha⟩
    · rintro ⟨_, _, ⟨rfl, rfl⟩, ha⟩
      exact ⟨_, ha, rfl, rfl⟩
  | char => simp [gives]
  | endTag => simp [gives]
  | raw => simp [gives]

/-- The button leads to an address that runs a script. -/
theorem button_runs_script :
    ∃ html rest tokens url, compileDocument evadingSections {} = .ok html ∧
      html = doctype ++ rest ∧ readTokens .content rest.toList = some tokens ∧ Link tokens url ∧
      RunsScript url.toList := by
  have hindent : ∀ c ∈ ({} : ExportOptions).indent.toList, IsPlain c := by decide
  obtain ⟨html, h⟩ : ∃ html, compileDocument evadingSections {} = .ok html :=
    exists_document (by decide +kernel)
  obtain ⟨body, rest, hbody, hhtml, -, hread⟩ := compileDocument_reads h hindent
  -- the address is looked for in the section only, without reading the whole document
  have hgiven : ((sectionFragments ⟨evadingSections, {}⟩ (evadingSections.home?.map Section.id)
      evadingSections.ordered).toOption.any fun body =>
        (Html.allTokens ({} : ExportOptions).layout 2 body.markup).any
          (Token.gives "href" (escapeHtml "\x01javascript:alert(1)"))) = true := by decide +kernel
  rw [hbody] at hgiven
  obtain ⟨t, ht, hgives⟩ := List.any_eq_true.1 hgiven
  obtain ⟨tag, attrs, rfl, hattr⟩ := Token.gives_iff.1 hgives
  refine ⟨html, rest, _, "\x01javascript:alert(1)", h, hhtml, hread, ?_, ?_⟩
  · exact .address (mem_documentTokens ht) hattr (by decide) (decodeEntities_escapeHtml _)
  · unfold RunsScript
    decide

end Document

end PageBuilder
