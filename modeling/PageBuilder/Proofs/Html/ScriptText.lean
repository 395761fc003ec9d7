import PageBuilder.Html.Document
import PageBuilder.Proofs.Html.Token

/-!
Scripts and style sheets as raw text. Their fixed lines hold no end tag, and a configuration brings
no `<` along, so a script runs to its own end tag whatever it is configured with.
-/

namespace PageBuilder

/-- A literal is checked by its characters. -/
theorem of_chars {p : List Char → Bool} {chars : List Char} (h : p chars = true) :
    p (String.ofList chars).toList = true := by
  rwa [String.toList_ofList]

/-- A line of a script holds no end tag. -/
def scriptLine (line : List Char) : Bool := !hasEndTag line

/-- A line of a style sheet holds no `<` at all. -/
def styleLine (line : List Char) : Bool := !line.contains '<'

theorem not_mem_of_styleLine {line : String} (h : styleLine line.toList = true) :
    '<' ∉ line.toList := by
  simpa [styleLine] using h

theorem styleLine_append {a b : String} (ha : styleLine a.toList = true)
    (hb : styleLine b.toList = true) : styleLine (a ++ b).toList = true := by
  simp only [styleLine, String.toList_append, Bool.not_eq_true', List.contains_eq_mem,
    decide_eq_false_iff_not, List.mem_append, not_or] at ha hb ⊢
  exact ⟨ha, hb⟩

theorem scriptLine_append {a b : String} (ha : styleLine a.toList = true)
    (hb : scriptLine b.toList = true) : scriptLine (a ++ b).toList = true := by
  rw [scriptLine, String.toList_append, hasEndTag_append_of_not_mem _ (not_mem_of_styleLine ha)]
  exact hb

-- the lines are taken off one by one and compared in short pieces; trying a lemma on a text must not
-- unfold the text
theorem source_lines (b : Behavior) : ∀ line ∈ b.source, scriptLine line.toList = true := by
  cases b
  all_goals
    unfold Behavior.source
    dsimp only
    first
      | unfold Behavior.routerSource
      | unfold Behavior.carouselSource
      | unfold Behavior.cardsCarouselSource
      | unfold Behavior.catalogSource
      | unfold Behavior.formSource
    repeat' with_reducible first
      | exact List.forall_mem_nil _
      | refine List.forall_mem_cons.2 ⟨?_, ?_⟩
      | refine scriptLine_append ?_ ?_
    all_goals exact of_chars rfl

theorem stylesheet_lines : ∀ rule ∈ stylesheet, styleLine rule.toList = true := by
  unfold stylesheet
  repeat' with_reducible first
    | exact List.forall_mem_nil _
    | refine List.forall_mem_cons.2 ⟨?_, ?_⟩
    | refine styleLine_append ?_ ?_
  all_goals exact of_chars rfl

theorem endedLines_noEndTag {lines : List String}
    (h : ∀ line ∈ lines, scriptLine line.toList = true) {behind : List Char}
    (hbehind : hasEndTag behind = false) :
    hasEndTag ((endedLines lines).toList ++ behind) = false := by
  induction lines with
  | nil => simpa [endedLines] using hbehind
  | cons line rest ih =>
    obtain ⟨hfirst, hrest⟩ := List.forall_mem_cons.1 h
    have hline : hasEndTag line.toList = false := by simpa [scriptLine] using hfirst
    have htext : (endedLines (line :: rest)).toList ++ behind =
        line.toList ++ (['\n'] ++ ((endedLines rest).toList ++ behind)) := by
      simp [endedLines]
    rw [htext, hasEndTag_append _ (by simp), hasEndTag_append_of_not_mem _ (by decide), hline,
      ih hrest]
    rfl

namespace ScriptBlock

/-- What stands in front of the lines of a script. -/
def opening : String := "(function (config) \x7b\n"

/-- What stands between the lines of a script and its configuration. -/
def middle : String := "\x7d)("

def ending : String := ");"

theorem text_eq (b : ScriptBlock) :
    b.text = opening ++ endedLines b.behavior.source ++ middle ++ scriptJson b.config ++ ending :=
  rfl

theorem text_toList (b : ScriptBlock) :
    b.text.toList = opening.toList ++ ((endedLines b.behavior.source).toList ++
      (middle.toList ++ ((scriptJson b.config).toList ++ ending.toList))) := by
  rw [text_eq]
  simp only [String.toList_append, List.append_assoc]

theorem frame_marks : '<' ∉ opening.toList ∧ '<' ∉ middle.toList ∧ '<' ∉ ending.toList := by
  refine ⟨?_, ?_, ?_⟩ <;> exact not_mem_of_styleLine (of_chars rfl)

theorem config_marks (b : ScriptBlock) : '<' ∉ (scriptJson b.config).toList :=
  fun hmem => (scriptJson_marks b.config hmem).1 rfl

/-- Whatever its configuration, a script holds no end tag. -/
theorem text_noEndTag (b : ScriptBlock) : hasEndTag b.text.toList = false := by
  obtain ⟨hopening, hmiddle, hend⟩ := frame_marks
  rw [text_toList, hasEndTag_append_of_not_mem _ hopening]
  apply endedLines_noEndTag (source_lines b.behavior)
  rw [hasEndTag_append_of_not_mem _ hmiddle, hasEndTag_append_of_not_mem _ b.config_marks]
  exact hasEndTag_of_not_mem hend

/-- All `<` of a script come from the fixed lines of its behaviour. -/
theorem text_count (b : ScriptBlock) :
    b.text.toList.count '<' = (endedLines b.behavior.source).toList.count '<' := by
  obtain ⟨hopening, hmiddle, hend⟩ := frame_marks
  simp only [text_toList, List.count_append, List.count_eq_zero_of_not_mem hopening,
    List.count_eq_zero_of_not_mem hmiddle, List.count_eq_zero_of_not_mem hend,
    List.count_eq_zero_of_not_mem b.config_marks]
  omega

end ScriptBlock

end PageBuilder
