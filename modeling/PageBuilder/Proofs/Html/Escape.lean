import PageBuilder.Html.Escape
import Mathlib.Tactic.Common

/-!
Escaped texts. No character with a meaning in markup is left in them, and decoding the entities
gives the text back.
-/

namespace PageBuilder

/-- A character that ends no tag, no value and no text. -/
def IsPlain (c : Char) : Prop := c ≠ '<' ∧ c ≠ '>' ∧ c ≠ '"'

instance : DecidablePred IsPlain := fun _ => inferInstanceAs (Decidable (_ ∧ _ ∧ _))

/-- A text is searched character by character, not the whole alphabet. -/
instance (priority := high) decidableForallChars (p : Char → Prop) [DecidablePred p]
    (cs : List Char) : Decidable (∀ c ∈ cs, p c) :=
  List.decidableBAll p cs

/-- A text with the entities of escaped texts replaced by their characters. -/
def decodeEntities : List Char → List Char
  | '&' :: 'a' :: 'm' :: 'p' :: ';' :: rest => '&' :: decodeEntities rest
  | '&' :: 'l' :: 't' :: ';' :: rest => '<' :: decodeEntities rest
  | '&' :: 'g' :: 't' :: ';' :: rest => '>' :: decodeEntities rest
  | '&' :: 'q' :: 'u' :: 'o' :: 't' :: ';' :: rest => '"' :: decodeEntities rest
  | '&' :: '#' :: '3' :: '9' :: ';' :: rest => '\'' :: decodeEntities rest
  | c :: rest => c :: decodeEntities rest
  | [] => []

theorem decodeEntities_htmlChar (c : Char) (rest : List Char) :
    decodeEntities (htmlChar c ++ rest) = c :: decodeEntities rest := by
  unfold htmlChar
  split_ifs with hamp hlt hgt hquote hapostrophe
  · rw [hamp]
    simp [decodeEntities]
  · rw [hlt]
    simp [decodeEntities]
  · rw [hgt]
    simp [decodeEntities]
  · rw [hquote]
    simp [decodeEntities]
  · rw [hapostrophe]
    simp [decodeEntities]
  · rw [List.singleton_append, decodeEntities] <;> simp_all

theorem decodeEntities_escapeHtml (s : String) :
    decodeEntities (escapeHtml s).toList = s.toList := by
  unfold escapeHtml
  rw [String.toList_ofList]
  induction s.toList with
  | nil => rfl
  | cons c rest ih => rw [List.flatMap_cons, decodeEntities_htmlChar, ih]

theorem escapeHtml_inj {s t : String} : escapeHtml s = escapeHtml t ↔ s = t := by
  refine ⟨fun h => ?_, congrArg escapeHtml⟩
  rw [← String.toList_inj, ← decodeEntities_escapeHtml s, h, decodeEntities_escapeHtml]

theorem escapeHtml_plain (s : String) {c : Char} (h : c ∈ (escapeHtml s).toList) : IsPlain c := by
  have hentities : ∀ entity ∈ ["&amp;", "&lt;", "&gt;", "&quot;", "&#39;"],
      ∀ x ∈ entity.toList, IsPlain x := by decide
  unfold escapeHtml at h
  rw [String.toList_ofList] at h
  obtain ⟨d, -, hd⟩ := List.mem_flatMap.1 h
  unfold htmlChar at hd
  split_ifs at hd with hamp hlt hgt hquote hapostrophe
  · exact hentities _ (by decide) c hd
  · exact hentities _ (by decide) c hd
  · exact hentities _ (by decide) c hd
  · exact hentities _ (by decide) c hd
  · exact hentities _ (by decide) c hd
  · obtain rfl := List.mem_singleton.1 hd
    exact ⟨hlt, hgt, hquote⟩

theorem escapeHtml_append (s t : String) : escapeHtml (s ++ t) = escapeHtml s ++ escapeHtml t := by
  unfold escapeHtml
  rw [String.toList_append, List.flatMap_append, String.ofList_append]

theorem escapeHtml_eq_self {s : String} (h : ∀ c ∈ s.toList, htmlChar c = [c]) :
    escapeHtml s = s := by
  have hchars : s.toList.flatMap htmlChar = s.toList := by
    generalize s.toList = cs at h
    induction cs with
    | nil => rfl
    | cons c rest ih =>
      obtain ⟨hc, hrest⟩ := List.forall_mem_cons.1 h
      rw [List.flatMap_cons, hc, ih hrest, List.singleton_append]
  rw [escapeHtml, hchars, String.ofList_toList]

/-- JSON in a script only holds characters that need no escape there. -/
theorem scriptJson_plain (j : Json) {c : Char} (h : c ∈ (scriptJson j).toList) :
    scriptChar c = [c] := by
  have hescapes : ∀ escape ∈ ["\\u003c", "\\u003e", "\\u0026", "\\u2028", "\\u2029"],
      ∀ x ∈ escape.toList, scriptChar x = [x] := by decide
  unfold scriptJson at h
  rw [String.toList_ofList] at h
  obtain ⟨d, -, hd⟩ := List.mem_flatMap.1 h
  by_cases hplain : scriptChar d = [d]
  · rw [hplain, List.mem_singleton] at hd
    rwa [hd]
  · unfold scriptChar at hplain hd
    split_ifs at hplain hd
    · exact hescapes _ (by decide) c hd
    · exact hescapes _ (by decide) c hd
    · exact hescapes _ (by decide) c hd
    · exact hescapes _ (by decide) c hd
    · exact hescapes _ (by decide) c hd
    · exact absurd rfl hplain

theorem scriptChar_eq_self {c : Char} (h : scriptChar c = [c]) :
    c ≠ '<' ∧ c ≠ '>' ∧ c ≠ '&' ∧ c.toNat ≠ 0x2028 ∧ c.toNat ≠ 0x2029 := by
  unfold scriptChar at h
  split_ifs at h with hlt hgt hamp hline hparagraph
  · cases congrArg List.length h
  · cases congrArg List.length h
  · cases congrArg List.length h
  · cases congrArg List.length h
  · cases congrArg List.length h
  · exact ⟨hlt, hgt, hamp, hline, hparagraph⟩

/-- JSON in a script holds no angle bracket. -/
theorem scriptJson_marks (j : Json) {c : Char} (h : c ∈ (scriptJson j).toList) :
    c ≠ '<' ∧ c ≠ '>' := by
  obtain ⟨hlt, hgt, -⟩ := scriptChar_eq_self (scriptJson_plain j h)
  exact ⟨hlt, hgt⟩

end PageBuilder
