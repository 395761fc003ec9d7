import PageBuilder.Html.Escape
import PageBuilder.Proofs.Json.Scalars

/-!
String literals read back. A text that is written as JSON into a script is read as the same text:
the further escapes for scripts are escapes of JSON, too.
-/

namespace PageBuilder

open Json

/-- A text's character as it stands in the JSON of a script. -/
def scriptStringChar (c : Char) : List Char := (escapeChar c).flatMap scriptChar

theorem scriptStringChar_eq {c : Char} (h : scriptChar c = [c]) :
    scriptStringChar c = escapeChar c := by
  unfold scriptStringChar escapeChar
  split_ifs with hquote hbackslash hfeed hreturn htab hback hform hcontrol
  iterate 7
    · decide
  · have hdigits : ∀ n < 0x20,
        ('\\' :: 'u' :: hex4 n).flatMap scriptChar = '\\' :: 'u' :: hex4 n := by decide
    exact hdigits _ hcontrol
  · rw [List.flatMap_singleton, h]

theorem stringBody_scriptStringChar (c : Char) (rest : List Char) :
    stringBody (scriptStringChar c ++ rest) =
      (stringBody rest).map fun r => (c :: r.1, r.2) := by
  by_cases hplain : scriptChar c = [c]
  · rw [scriptStringChar_eq hplain]
    exact stringBody_escapeChar c rest
  · unfold scriptChar at hplain
    split_ifs at hplain with hlt hgt hamp hline hparagraph
    · subst hlt
      exact stringBody_hex (n := 0x3c) (by decide) (by decide) rest
    · subst hgt
      exact stringBody_hex (n := 0x3e) (by decide) (by decide) rest
    · subst hamp
      exact stringBody_hex (n := 0x26) (by decide) (by decide) rest
    · obtain rfl : c = Char.ofNat 0x2028 := by rw [← hline, Char.ofNat_toNat]
      exact stringBody_hex (n := 0x2028) (by decide) (by decide) rest
    · obtain rfl : c = Char.ofNat 0x2029 := by rw [← hparagraph, Char.ofNat_toNat]
      exact stringBody_hex (n := 0x2029) (by decide) (by decide) rest
    · exact absurd rfl hplain

theorem stringBody_scriptString (cs rest : List Char) :
    stringBody (cs.flatMap scriptStringChar ++ '"' :: rest) = some (cs, rest) := by
  induction cs with
  | nil => rw [List.flatMap_nil, List.nil_append, stringBody]
  | cons c cs ih =>
    rw [List.flatMap_cons, List.append_assoc, stringBody_scriptStringChar, ih]
    rfl

theorem scriptJson_str (s : String) :
    (scriptJson (.str s)).toList = '"' :: (s.toList.flatMap scriptStringChar ++ ['"']) := by
  have hquote : scriptChar '"' = ['"'] := by decide
  unfold scriptJson
  rw [String.toList_ofList, Json.chars, quoteChars]
  simp only [List.cons_append, List.flatMap_cons, List.flatMap_append, List.flatMap_assoc,
    List.flatMap_nil, hquote]
  rfl

/-- A text in a script is read as JSON to the same text. -/
theorem parse?_scriptJson_str (s : String) : Json.parse? (scriptJson (.str s)) = some (.str s) := by
  have hread : Json.read? (scriptJson (.str s)) = some (.str s) := by
    unfold Json.read? Json.readOutlined?
    have hbody := stringBody_scriptString s.toList []
    have hspace (rest : List Char) : skipSpace ('"' :: rest) = '"' :: rest := rfl
    dsimp only
    rw [scriptJson_str, readValue, hspace]
    simp only [hbody, Option.map_some, String.ofList_toList]
    rfl
  rw [Json.parse?, hread]
  rfl

end PageBuilder
