import PageBuilder.Proofs.Html.StartTags

/-!
Elements inside each other. A reader keeps account of the tags that are open, so it can tell which
start tags stand right inside an element. Markup of templates closes what it opens: what stands
inside one of its elements is met inside of it and nowhere else.
-/

namespace PageBuilder

/-- The start tags that are met while exactly the elements `parents` are open, innermost first;
`opened` are open at the start. -/
def childTags (parents : List String) : (opened : List String) → List Token → List Token
  | _, [] => []
  | opened, t :: rest =>
    (if t.isStart && opened == parents then [t] else []) ++
      match t.nest opened with
      | some inner => childTags parents inner rest
      | none => []

variable {parents opened : List String}

theorem childTags_append {tokens : List Token} {inner : List String} (rest : List Token)
    (h : tokens.foldlM Token.nest opened = some inner) :
    childTags parents opened (tokens ++ rest) =
      childTags parents opened tokens ++ childTags parents inner rest := by
  induction tokens generalizing opened with
  | nil =>
    obtain rfl : opened = inner := Option.some.inj h
    rfl
  | cons t tokens ih =>
    rw [List.foldlM_cons] at h
    obtain ⟨next, hnext, hrest⟩ := Option.bind_eq_some_iff.1 h
    simp only [List.cons_append, childTags, hnext, ih hrest, List.append_assoc]

theorem Closed.childTags_append {tokens : List Token} (h : Closed tokens) (rest : List Token) :
    childTags parents opened (tokens ++ rest) =
      childTags parents opened tokens ++ childTags parents opened rest :=
  PageBuilder.childTags_append rest (h opened)

theorem Token.nest_append {t : Token} {inner next : List String} (outer : List String)
    (h : t.nest inner = some next) : t.nest (inner ++ outer) = some (next ++ outer) := by
  cases t with
  | char c =>
    obtain rfl : inner = next := Option.some.inj h
    rfl
  | startTag name attrs =>
    obtain rfl := Option.some.inj h
    rw [Token.nest]
    split <;> rfl
  | endTag name =>
    cases inner with
    | nil => cases h
    | cons top rest =>
      rw [Token.nest] at h
      split at h
      · next hname =>
        obtain rfl := Option.some.inj h
        rw [List.cons_append, Token.nest, if_pos hname]
      · cases h
  | raw name attrs contents =>
    obtain rfl : inner = next := Option.some.inj h
    rfl

/-- Inside of other elements than the parents and those around them, no child is met. -/
theorem childTags_outside {tokens : List Token} (inner : List String) {last : List String}
    (houtside : ¬ opened <:+ parents) (h : tokens.foldlM Token.nest inner = some last) :
    childTags parents (inner ++ opened) tokens = [] := by
  induction tokens generalizing inner with
  | nil => rfl
  | cons t tokens ih =>
    rw [List.foldlM_cons] at h
    obtain ⟨next, hnext, hrest⟩ := Option.bind_eq_some_iff.1 h
    -- what is open ends in `opened` all along, so it never is just the parents
    have hother : (inner ++ opened == parents) = false :=
      beq_eq_false_iff_ne.2 fun hsame => houtside ⟨inner, hsame⟩
    rw [childTags, hother, Bool.and_false, if_neg Bool.false_ne_true, Token.nest_append _ hnext,
      List.nil_append]
    exact ih next hrest

theorem Closed.childTags_outside {tokens : List Token} (h : Closed tokens)
    (houtside : ¬ opened <:+ parents) : childTags parents opened tokens = [] :=
  PageBuilder.childTags_outside [] houtside (h [])

theorem closed_charTokens (s : String) : Closed (charTokens s) := Closed.chars _

theorem childTags_chars (s : String) : childTags parents opened (charTokens s) = [] := by
  unfold charTokens
  induction s.toList with
  | nil => rfl
  | cons c cs ih => exact ih

/-- What stands right inside an element is met with its tag open. -/
theorem childTags_element {name : String} (attrs : List Attr) {inner : List Token}
    (hname : name ∉ voidTags) (hinner : Closed inner) :
    childTags parents opened (.startTag name attrs :: inner ++ [.endTag name]) =
      (if opened == parents then [.startTag name attrs] else []) ++
        childTags parents (name :: opened) inner := by
  have hnest : (Token.startTag name attrs).nest opened = some (name :: opened) := by
    rw [Token.nest, if_neg hname]
  have hend : childTags parents (name :: opened) [.endTag name] = [] := by
    rw [childTags, Token.nest, if_pos rfl]
    rfl
  rw [List.cons_append, childTags, hnest]
  simp only [hinner.childTags_append, hend, List.append_nil]
  rfl

theorem childTags_flatMap {α : Type} {f : α → List Token} {l : List α}
    (h : ∀ a ∈ l, Closed (f a)) :
    childTags parents opened (l.flatMap f) = l.flatMap fun a => childTags parents opened (f a) := by
  induction l with
  | nil => rfl
  | cons a rest ih =>
    obtain ⟨hfirst, hrest⟩ := List.forall_mem_cons.1 h
    rw [List.flatMap_cons, List.flatMap_cons, hfirst.childTags_append, ih hrest]

variable {style : LayoutStyle}

theorem childTags_line {tokens : List Token} (h : Closed tokens) (depth : Nat) :
    childTags parents opened (style.lineTokens depth tokens) = childTags parents opened tokens := by
  rw [LayoutStyle.lineTokens, ((closed_charTokens _).append h).childTags_append,
    (closed_charTokens _).childTags_append, childTags_chars, childTags_chars, List.nil_append,
    List.append_nil]

theorem Html.block_tokens (style : LayoutStyle) (depth : Nat) (tag : String) (attrs : List Attr)
    (children : List Html) :
    (Html.block tag attrs children).tokens style depth = style.lineTokens depth
      (.startTag tag (attrs.map Attr.written) ::
        (charTokens style.behind ++
          (Html.allTokens style (depth + 1) children ++ charTokens (style.before depth))) ++
        [.endTag tag]) := by
  simp only [Html.tokens, LayoutStyle.lineTokens, List.append_assoc, List.cons_append,
    List.nil_append]

theorem Html.Sound.allClosed (style : LayoutStyle) {raw : Bool} {children : List Html}
    (h : ∀ x ∈ children, x.Sound raw) (depth : Nat) :
    Closed (Html.allTokens style depth children) := by
  rw [Html.allTokens_eq]
  exact Closed.flatMap fun x hx => (h x hx).closed depth

theorem Html.Sound.of_block {raw : Bool} {tag : String} {attrs : List Attr} {children : List Html}
    (h : (Html.block tag attrs children).Sound raw) :
    tag ∉ voidTags ∧ ∀ x ∈ children, x.Sound raw := by
  cases h with
  | block htag hattrs hchildren => exact ⟨pairedTags_not_void _ htag, hchildren⟩

theorem childTags_block {raw : Bool} {tag : String} {attrs : List Attr} {children : List Html}
    (h : (Html.block tag attrs children).Sound raw) (depth : Nat) :
    childTags parents opened ((Html.block tag attrs children).tokens style depth) =
      (if opened == parents then [.startTag tag (attrs.map Attr.written)] else []) ++
        childTags parents (tag :: opened) (Html.allTokens style (depth + 1) children) := by
  obtain ⟨htag, hchildren⟩ := h.of_block
  have hclosed := Html.Sound.allClosed style hchildren (depth + 1)
  have hinner := (closed_charTokens style.behind).append
    (hclosed.append (closed_charTokens (style.before depth)))
  rw [Html.block_tokens, childTags_line (Closed.element htag _ hinner),
    childTags_element _ htag hinner, (closed_charTokens _).childTags_append,
    hclosed.childTags_append, childTags_chars, childTags_chars, List.nil_append, List.append_nil]

/-- A block with nothing of interest inside. -/
theorem childTags_block_outside {raw : Bool} {tag : String} {attrs : List Attr}
    {children : List Html} (h : (Html.block tag attrs children).Sound raw)
    (houtside : ¬ (tag :: opened) <:+ parents) (depth : Nat) :
    childTags parents opened ((Html.block tag attrs children).tokens style depth) =
      if opened == parents then [.startTag tag (attrs.map Attr.written)] else [] := by
  have hclosed := Html.Sound.allClosed style h.of_block.2 (depth + 1)
  rw [childTags_block h, hclosed.childTags_outside houtside, List.append_nil]

theorem childTags_all {raw : Bool} {children : List Html} (h : ∀ x ∈ children, x.Sound raw)
    (depth : Nat) :
    childTags parents opened (Html.allTokens style depth children) =
      children.flatMap fun x => childTags parents opened (x.tokens style depth) := by
  rw [Html.allTokens_eq, childTags_flatMap fun x hx => (h x hx).closed depth]

theorem childTags_script (name body : String) (depth : Nat) :
    childTags parents opened ((Html.script name body).tokens style depth) =
      if opened == parents then [.startTag "script" [(attr "data-module" name).written]] else [] := by
  have hname : "script" ∉ voidTags := by decide
  have hraw := Closed.raw "script" ([attr "data-module" name].map Attr.written)
    (style.contents depth (body ++ "\n")).toList
  have helement : Closed (style.rawTokens depth "script" [attr "data-module" name]
      (body ++ "\n")) := Closed.element hname _ hraw
  rw [Html.tokens, childTags_line helement]
  exact (childTags_element _ hname hraw).trans (List.append_nil _)

end PageBuilder
