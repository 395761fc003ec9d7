import PageBuilder.Proofs.Html.Compact

/-!
Writing line by line. A writer keeps how far the next line is indented, the text so far and the
scripts for later; what it is given to do are lines, raw texts, changes of the indentation and
scripts. Steps that write a fragment put the text of its markup at the depth where they begin, and
come back to that depth without ever going below it.
-/

namespace PageBuilder

/-- One thing that is done while markup is written. -/
inductive WriterStep where
  /-- A line at the depth of the writer. -/
  | line (text : String)
  /-- A text that is never indented. -/
  | raw (text : String)
  | indent
  | dedent
  /-- A script is kept for later. -/
  | script (b : ScriptBlock)

/-- What is written so far, and how the next line is indented. -/
structure Writer where
  style : LayoutStyle
  depth : Nat
  output : String
  scripts : List ScriptBlock

namespace Writer

def new (style : LayoutStyle) : Writer := ⟨style, 0, "", []⟩

/-- The writer after a step. At depth zero there is nothing to take back. -/
def step (w : Writer) : WriterStep → Writer
  | .line text => { w with output := w.output ++ (Piece.line w.depth text).write w.style }
  | .raw text => { w with output := w.output ++ text }
  | .indent => { w with depth := w.depth + 1 }
  | .dedent => { w with depth := w.depth - 1 }
  | .script b => { w with scripts := w.scripts ++ [b] }

def run (w : Writer) (steps : List WriterStep) : Writer := steps.foldl step w

/-- The writer after a fragment at its depth. -/
def put (w : Writer) (f : Fragment) : Writer :=
  { w with
    output := w.output ++ writePieces w.style (Html.allPieces w.depth f.markup)
    scripts := w.scripts ++ f.scripts }

theorem run_append (w : Writer) (first second : List WriterStep) :
    w.run (first ++ second) = (w.run first).run second := List.foldl_append

theorem run_cons (w : Writer) (s : WriterStep) (rest : List WriterStep) :
    w.run (s :: rest) = (w.step s).run rest := rfl

theorem put_append (w : Writer) (f g : Fragment) : w.put (f.append g) = (w.put f).put g := by
  simp only [put, Fragment.append, Html.allPieces_append, writePieces_append, String.append_assoc,
    List.append_assoc]

end Writer

/-- Among steps, every step back is from a depth greater than the one at which they begin. -/
def StepsBackInside (steps : List WriterStep) : Prop :=
  ∀ (w : Writer) (before behind : List WriterStep),
    steps = before ++ .dedent :: behind → w.depth < (w.run before).depth

/-- Steps frame what they write: they leave the depth as they found it and never step back from it
on the way, and what was written and kept before stays in front. -/
structure Framed (steps : List WriterStep) : Prop where
  depth_eq : ∀ w : Writer, (w.run steps).depth = w.depth
  inside : StepsBackInside steps
  appends : ∀ w : Writer, ∃ text scripts,
    (w.run steps).output = w.output ++ text ∧ (w.run steps).scripts = w.scripts ++ scripts

/-- Steps write a fragment at the depth where they begin. -/
structure Writes (steps : List WriterStep) (f : Fragment) : Prop where
  run_eq : ∀ w : Writer, w.run steps = w.put f
  inside : StepsBackInside steps

/-- Markup that is a single line. -/
def Html.IsLine (x : Html) : Prop := ∃ content, x = .line content

/-- The steps of lines one below the other. -/
def linesOf (lines : List Html) : List WriterStep :=
  lines.flatMap fun x =>
    match x with
    | .line content => [.line content.write]
    | _ => []

/-- A start tag on a line of its own, with what follows one level further in. -/
def opens (tag : String) (attrs : List Attr) : List WriterStep :=
  [.line (startTag tag attrs), .indent]

/-- One level back, and the end tag on a line of its own. -/
def closes (tag : String) : List WriterStep := [.dedent, .line (endTag tag)]

/-- Steps that write a fragment frame it. -/
theorem Writes.framed {steps : List WriterStep} {f : Fragment} (h : Writes steps f) :
    Framed steps := by
  refine ⟨fun w => ?_, h.inside, fun w => ?_⟩
  · rw [h.run_eq]
    rfl
  · rw [h.run_eq]
    exact ⟨_, _, rfl, rfl⟩

/-- A step back among steps and further ones is among the first or among the others. -/
theorem dedent_cases {first second before behind : List WriterStep}
    (h : first ++ second = before ++ .dedent :: behind) :
    (∃ rest, first = before ++ .dedent :: rest) ∨
      ∃ rest, before = first ++ rest ∧ second = rest ++ .dedent :: behind := by
  rcases List.append_eq_append_iff.1 h with ⟨rest, hbefore, hsecond⟩ | ⟨rest, hfirst, hdedent⟩
  · exact Or.inr ⟨rest, hbefore, hsecond⟩
  · cases rest with
    | nil =>
      rw [List.append_nil] at hfirst
      refine Or.inr ⟨[], ?_, hdedent.symm⟩
      rw [List.append_nil, hfirst]
    | cons s rest =>
      obtain ⟨rfl, -⟩ := List.cons.inj hdedent
      exact Or.inl ⟨rest, hfirst⟩

/-- Steps with no step back. -/
theorem stepsBackInside_of_none {steps : List WriterStep} (h : WriterStep.dedent ∉ steps) :
    StepsBackInside steps := by
  rintro w before behind rfl
  exact absurd (List.mem_append_right _ (List.mem_cons_self ..)) h

/-- Steps that come back to their depth, in a block. -/
theorem stepsBackInside_block {steps : List WriterStep} {tag : String} {attrs : List Attr}
    (hinside : StepsBackInside steps) (hdepth : ∀ w : Writer, (w.run steps).depth = w.depth) :
    StepsBackInside (opens tag attrs ++ steps ++ closes tag) := by
  intro w before behind h
  let entered : Writer := w.run (opens tag attrs)
  have hentered : entered.depth = w.depth + 1 := rfl
  rcases dedent_cases h with ⟨rest, hfirst⟩ | ⟨rest, rfl, hlast⟩
  · rcases dedent_cases hfirst with ⟨rest', hopens⟩ | ⟨rest', rfl, hsteps⟩
    · -- nothing is taken back before the block is entered
      have hmem : WriterStep.dedent ∈ opens tag attrs := by
        rw [hopens]
        exact List.mem_append_right _ (List.mem_cons_self ..)
      simp [opens] at hmem
    · have hstep : entered.depth < (entered.run rest').depth := hinside entered rest' rest hsteps
      rw [Writer.run_append]
      change w.depth < (entered.run rest').depth
      omega
  · -- the step back at the end of the block is from inside of it
    have hrest : rest = [] := by
      cases rest with
      | nil => rfl
      | cons s rest =>
        have hend := congrArg List.tail hlast
        have hmem : WriterStep.dedent ∈ [WriterStep.line (endTag tag)] := by
          rw [closes, List.tail_cons, List.cons_append, List.tail_cons] at hend
          rw [hend]
          exact List.mem_append_right _ (List.mem_cons_self ..)
        simp at hmem
    have hback : (entered.run steps).depth = entered.depth := hdepth entered
    rw [hrest, List.append_nil, Writer.run_append]
    change w.depth < (entered.run steps).depth
    omega

namespace Writes

variable {steps others : List WriterStep} {f g : Fragment}

theorem nothing : Writes [] .empty := by
  refine ⟨fun w => ?_, stepsBackInside_of_none List.not_mem_nil⟩
  have hnone : writePieces w.style (Html.allPieces w.depth Fragment.empty.markup) = "" := rfl
  rw [Writer.put, hnone, String.append_empty, Fragment.empty, List.append_nil]
  rfl

theorem script (b : ScriptBlock) : Writes [.script b] ⟨[], [b]⟩ := by
  refine ⟨fun w => ?_, stepsBackInside_of_none (by simp)⟩
  have hnone : writePieces w.style (Html.allPieces w.depth []) = "" := rfl
  rw [Writer.put, hnone, String.append_empty]
  rfl

theorem line (content : Inline) : Writes [.line content.write] ⟨[.line content], []⟩ := by
  refine ⟨fun w => ?_, stepsBackInside_of_none (by simp)⟩
  have hline : writePieces w.style (Html.allPieces w.depth [.line content]) =
      (Piece.line w.depth content.write).write w.style := String.append_empty
  rw [Writer.put, hline, List.append_nil]
  rfl

/-- One fragment after the other. -/
theorem append (hf : Writes steps f) (hg : Writes others g) :
    Writes (steps ++ others) (f.append g) := by
  constructor
  · intro w
    calc w.run (steps ++ others)
        = (w.run steps).run others := Writer.run_append w steps others
      _ = (w.put f).put g := by rw [hf.run_eq, hg.run_eq]
      _ = w.put (f.append g) := (Writer.put_append w f g).symm
  · intro w before behind h
    rcases dedent_cases h with ⟨rest, hfirst⟩ | ⟨rest, rfl, hsecond⟩
    · exact hf.inside w before rest hfirst
    · -- the first steps come back to the depth where they begin
      have hdepth : (w.run steps).depth = w.depth := hf.framed.depth_eq w
      have hrest := hg.inside (w.run steps) rest behind hsecond
      rw [hdepth] at hrest
      rwa [Writer.run_append]

/-- A fragment in a block. -/
theorem block (tag : String) (attrs : List Attr) (hf : Writes steps f) :
    Writes (opens tag attrs ++ steps ++ closes tag) ⟨[.block tag attrs f.markup], f.scripts⟩ := by
  constructor
  · intro w
    have hpieces : Html.allPieces w.depth [.block tag attrs f.markup] =
        .line w.depth (startTag tag attrs) :: (Html.allPieces (w.depth + 1) f.markup ++
          [.line w.depth (endTag tag)]) := by
      simp only [Html.allPieces, Html.pieces, List.append_nil, List.cons_append]
    rw [Writer.run_append, Writer.run_append, hf.run_eq, Writer.put, Writer.put, hpieces, writePieces,
      writePieces_append, ← String.append_assoc, ← String.append_assoc]
    simp only [opens, closes, Writer.run, List.foldl_cons, List.foldl_nil, Writer.step,
      Nat.add_sub_cancel, writePieces, String.append_empty]
  · exact stepsBackInside_block hf.inside hf.framed.depth_eq

/-- The lines of a style sheet in its element. -/
theorem style (rules : List String) :
    Writes (opens "style" [] ++ rules.map .line ++ closes "style") ⟨[.style rules], []⟩ := by
  have hrules (w : Writer) : w.run (rules.map .line) =
      { w with output := w.output ++ writePieces w.style (rules.map (Piece.line w.depth)) } := by
    induction rules generalizing w with
    | nil => exact (congrArg (fun text => { w with output := text }) String.append_empty).symm
    | cons rule rest ih =>
      rw [List.map_cons, Writer.run_cons, ih, List.map_cons, writePieces, ← String.append_assoc]
      rfl
  constructor
  · intro w
    have hpieces : Html.allPieces w.depth [.style rules] =
        .line w.depth "<style>" :: (rules.map (Piece.line (w.depth + 1)) ++
          [.line w.depth "</style>"]) := by
      simp only [Html.allPieces, Html.pieces, List.append_nil, List.cons_append]
    have hopen : startTag "style" [] = "<style>" := by decide
    have hclose : endTag "style" = "</style>" := by decide
    rw [Writer.run_append, Writer.run_append, hrules, Writer.put, hpieces, writePieces,
      writePieces_append, ← String.append_assoc, ← String.append_assoc, List.append_nil]
    simp only [opens, closes, Writer.run, List.foldl_cons, List.foldl_nil, Writer.step, hopen,
      hclose, Nat.add_sub_cancel, writePieces, String.append_empty]
  · refine stepsBackInside_block (stepsBackInside_of_none ?_) fun w => ?_
    · simp
    · rw [hrules]

/-- Markup below other markup, both without scripts. -/
theorem below {l more : List Html} (hl : Writes steps ⟨l, []⟩) (hmore : Writes others ⟨more, []⟩) :
    Writes (steps ++ others) ⟨l ++ more, []⟩ := hl.append hmore

/-- Markup without scripts in a block. -/
theorem inside_block {tag : String} {attrs : List Attr} {l : List Html}
    (hl : Writes steps ⟨l, []⟩) :
    Writes (opens tag attrs ++ steps ++ closes tag) ⟨[.block tag attrs l], []⟩ := hl.block tag attrs

/-- Markup with the scripts that belong to it. -/
theorem with_scripts {l : List Html} (hl : Writes steps ⟨l, []⟩) (scripts : List ScriptBlock) :
    Writes (steps ++ scripts.map .script) ⟨l, scripts⟩ := by
  have hscripts : Writes (scripts.map .script) ⟨[], scripts⟩ := by
    induction scripts with
    | nil => exact nothing
    | cons b rest ih => exact (script b).append ih
  have hboth := hl.append hscripts
  rwa [Fragment.append, List.append_nil, List.nil_append] at hboth

/-- Lines one below the other. -/
theorem lines {l : List Html} (h : ∀ x ∈ l, x.IsLine) : Writes (linesOf l) ⟨l, []⟩ := by
  induction l with
  | nil => exact nothing
  | cons x rest ih =>
    obtain ⟨⟨content, rfl⟩, hrest⟩ := List.forall_mem_cons.1 h
    exact (line content).append (ih hrest)

/-- The fragments of items one after the other. -/
theorem flatMap {α : Type} {each : α → List WriterStep} {html : α → Html} {l : List α}
    (h : ∀ a ∈ l, Writes (each a) ⟨[html a], []⟩) : Writes (l.flatMap each) ⟨l.map html, []⟩ := by
  induction l with
  | nil => exact nothing
  | cons a rest ih =>
    obtain ⟨hfirst, hrest⟩ := List.forall_mem_cons.1 h
    exact hfirst.append (ih hrest)

/-- Steps that are taken only under a condition. -/
theorem ite {c : Bool} {l : List Html} (h : Writes steps ⟨l, []⟩) :
    Writes (if c then steps else []) ⟨htmlIf c l, []⟩ := by
  cases c with
  | true => exact h
  | false => exact nothing

end Writes

section Lines

theorem isLine_cons (content : Inline) {l : List Html} (h : ∀ x ∈ l, x.IsLine) :
    ∀ x ∈ Html.line content :: l, x.IsLine := List.forall_mem_cons.2 ⟨⟨content, rfl⟩, h⟩

theorem isLine_one (content : Inline) : ∀ x ∈ [Html.line content], x.IsLine :=
  isLine_cons content (List.forall_mem_nil _)

theorem isLine_htmlIf {c : Bool} {l : List Html} (h : ∀ x ∈ l, x.IsLine) :
    ∀ x ∈ htmlIf c l, x.IsLine := by
  cases c with
  | true => exact h
  | false => exact List.forall_mem_nil _

theorem isLine_spanUnlessEmpty (tag : String) (attrs : List Attr) (s : String) :
    ∀ x ∈ spanUnlessEmpty tag attrs s, x.IsLine :=
  isLine_htmlIf (isLine_one _)

theorem isLine_map {α : Type} {f : α → Html} (h : ∀ a, (f a).IsLine) (l : List α) :
    ∀ x ∈ l.map f, x.IsLine := by
  intro x hx
  obtain ⟨a, -, rfl⟩ := List.mem_map.1 hx
  exact h a

end Lines

end PageBuilder
