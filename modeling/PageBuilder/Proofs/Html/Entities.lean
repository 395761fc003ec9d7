import PageBuilder.Proofs.Html.Escape
import Mathlib.Data.List.Nodup
import Mathlib.Data.List.Perm.Basic

/-!
Escaping as replacement by entities. Replacements that are made one after the other, each in the
text that the others have left, come to the same as one pass over the text, if none of them finds
anything to replace in what an earlier one has written. For the entities this means that the
ampersand comes first. Escaped texts are just those in which every ampersand begins an entity and no
other character with a meaning in markup is left.
-/

namespace PageBuilder

section Replacement

/-- A text in which another text takes the place of a character, wherever this stands. -/
def replaceAll (s : String) (c : Char) (text : String) : String :=
  String.ofList (s.toList.flatMap fun d => if d = c then text.toList else [d])

/-- The replacements of a table one after the other. -/
def replacedInTurn (table : List (Char × String)) (s : String) : String :=
  table.foldl (fun s entry => replaceAll s entry.1 entry.2) s

/-- What a table puts in the place of a character. -/
def substitute : List (Char × String) → Char → List Char
  | [], c => [c]
  | entry :: rest, c => if c = entry.1 then entry.2.toList else substitute rest c

/-- The replacements of a table in one pass over the text. -/
def replacedAtOnce (table : List (Char × String)) (s : String) : String :=
  String.ofList (s.toList.flatMap (substitute table))

variable {table : List (Char × String)} {s : String} {c : Char}

theorem substitute_of_not_mem (h : c ∉ table.map Prod.fst) : substitute table c = [c] := by
  induction table with
  | nil => rfl
  | cons entry rest ih =>
    rw [List.map_cons, List.mem_cons, not_or] at h
    rw [substitute, if_neg h.1, ih h.2]

theorem substitute_of_mem (hkeys : (table.map Prod.fst).Nodup) {entry : Char × String}
    (h : entry ∈ table) : substitute table entry.1 = entry.2.toList := by
  induction table with
  | nil => cases h
  | cons first rest ih =>
    obtain ⟨hfirst, hrest⟩ := List.nodup_cons.1 hkeys
    rcases List.mem_cons.1 h with rfl | h
    · exact if_pos rfl
    · have hne : entry.1 ≠ first.1 := fun heq => hfirst (heq ▸ List.mem_map_of_mem h)
      rw [substitute, if_neg hne, ih hrest h]

/-- With one entry for each character the order of a table does not matter for a single pass. -/
theorem substitute_perm {order : List (Char × String)} (h : order.Perm table)
    (hkeys : (table.map Prod.fst).Nodup) : substitute order = substitute table := by
  funext c
  by_cases hc : c ∈ table.map Prod.fst
  · obtain ⟨entry, hentry, rfl⟩ := List.mem_map.1 hc
    rw [substitute_of_mem hkeys hentry,
      substitute_of_mem ((h.map Prod.fst).nodup_iff.2 hkeys) (h.mem_iff.2 hentry)]
  · rw [substitute_of_not_mem hc, substitute_of_not_mem (mt (h.map Prod.fst).mem_iff.1 hc)]

theorem flatMap_substitute_of_not_mem {cs : List Char} (h : ∀ entry ∈ table, entry.1 ∉ cs) :
    cs.flatMap (substitute table) = cs := by
  calc
    cs.flatMap (substitute table) = cs.flatMap fun c => [c] := by
      apply List.flatMap_congr
      intro c hc
      apply substitute_of_not_mem
      intro hkey
      obtain ⟨entry, hentry, rfl⟩ := List.mem_map.1 hkey
      exact h entry hentry hc
    _ = cs := List.flatMap_singleton' cs

theorem replacedAtOnce_of_not_mem (h : ∀ entry ∈ table, entry.1 ∉ s.toList) :
    replacedAtOnce table s = s := by
  rw [replacedAtOnce, flatMap_substitute_of_not_mem h, String.ofList_toList]

/-- Replacements that find nothing in what earlier ones have written come to one pass. -/
theorem replacedInTurn_eq_atOnce (h : table.Pairwise fun entry later => later.1 ∉ entry.2.toList)
    (s : String) : replacedInTurn table s = replacedAtOnce table s := by
  induction table generalizing s with
  | nil => exact (replacedAtOnce_of_not_mem (List.forall_mem_nil _)).symm
  | cons entry rest ih =>
    obtain ⟨hentry, hrest⟩ := List.pairwise_cons.1 h
    have hfirst : replacedInTurn (entry :: rest) s =
        replacedInTurn rest (replaceAll s entry.1 entry.2) := rfl
    rw [hfirst, ih hrest, replacedAtOnce, replacedAtOnce, replaceAll, String.toList_ofList,
      List.flatMap_assoc]
    congr 1
    apply List.flatMap_congr
    intro d _
    rw [substitute]
    split
    · -- the text of the first entry is safe from the later ones
      exact flatMap_substitute_of_not_mem hentry
    · exact List.flatMap_singleton ..

/-- Replacements that find nothing leave a text as it is. -/
theorem replacedInTurn_of_not_mem (h : ∀ entry ∈ table, entry.1 ∉ s.toList) :
    replacedInTurn table s = s := by
  induction table with
  | nil => rfl
  | cons entry rest ih =>
    obtain ⟨hentry, hrest⟩ := List.forall_mem_cons.1 h
    have hsame : replacedAtOnce [entry] s = s :=
      replacedAtOnce_of_not_mem (by simpa using hentry)
    have hfirst : replaceAll s entry.1 entry.2 = replacedAtOnce [entry] s := rfl
    rw [replacedInTurn, List.foldl_cons, hfirst, hsame]
    exact ih hrest

end Replacement

/-- The ampersand and its entity. -/
def ampersand : Char × String := ('&', "&amp;")

/-- The characters with a meaning in markup and their entities. -/
def htmlEntities : List (Char × String) :=
  [ampersand, ('<', "&lt;"), ('>', "&gt;"), ('"', "&quot;"), ('\'', "&#39;")]

theorem htmlEntities_keys : (htmlEntities.map Prod.fst).Nodup := by decide

theorem escapeHtml_eq_atOnce (s : String) : escapeHtml s = replacedAtOnce htmlEntities s := rfl

theorem htmlChar_of_mem {entity : Char × String} (h : entity ∈ htmlEntities) :
    htmlChar entity.1 = entity.2.toList := substitute_of_mem htmlEntities_keys h

theorem htmlChar_of_not_mem {c : Char} (h : c ∉ htmlEntities.map Prod.fst) : htmlChar c = [c] :=
  substitute_of_not_mem h

/-- An entity begins with its only ampersand and holds none of the other four characters. -/
theorem htmlEntities_texts : ∀ entity ∈ htmlEntities, entity.2.toList.head? = some '&' ∧
    ∀ c ∈ entity.2.toList.tail, c ∉ htmlEntities.map Prod.fst := by decide

/-- A text in which every ampersand begins an entity and no other character has a meaning in
markup. -/
structure IsEscaped (cs : List Char) : Prop where
  unmarked : ∀ c ∈ cs, c ≠ '<' ∧ c ≠ '>' ∧ c ≠ '"' ∧ c ≠ '\''
  entities : ∀ before later, cs = before ++ '&' :: later →
    ∃ entity ∈ htmlEntities, entity.2.toList <+: '&' :: later

namespace IsEscaped

variable {cs : List Char}

theorem nil : IsEscaped [] where
  unmarked := List.forall_mem_nil _
  entities _ _ h := absurd h.symm (List.append_ne_nil_of_right_ne_nil _ (List.cons_ne_nil _ _))

theorem of_append {front : List Char} (h : IsEscaped (front ++ cs)) : IsEscaped cs where
  unmarked c hc := h.unmarked c (List.mem_append_right front hc)
  entities before later hcs := h.entities (front ++ before) later (by rw [hcs, List.append_assoc])

/-- A character that is not escaped keeps a text escaped. -/
theorem cons {c : Char} (hc : c ∉ htmlEntities.map Prod.fst) (h : IsEscaped cs) :
    IsEscaped (c :: cs) where
  unmarked := by
    rw [List.forall_mem_cons]
    refine ⟨⟨?_, ?_, ?_, ?_⟩, h.unmarked⟩
    all_goals
      rintro rfl
      exact hc (by decide)
  entities before later hcs := by
    cases before with
    | nil =>
      obtain rfl := (List.cons.inj hcs).1
      exact absurd (by decide) hc
    | cons first before => exact h.entities before later (List.cons.inj hcs).2

theorem plain {front : List Char} (hfront : ∀ c ∈ front, c ∉ htmlEntities.map Prod.fst)
    (h : IsEscaped cs) : IsEscaped (front ++ cs) := by
  induction front with
  | nil => exact h
  | cons c front ih =>
    obtain ⟨hc, hrest⟩ := List.forall_mem_cons.1 hfront
    exact (ih hrest).cons hc

theorem entity {entity : Char × String} (hentity : entity ∈ htmlEntities) (h : IsEscaped cs) :
    IsEscaped (entity.2.toList ++ cs) := by
  obtain ⟨hhead, htail⟩ := htmlEntities_texts entity hentity
  obtain ⟨tail, htext⟩ := List.head?_eq_some_iff.1 hhead
  rw [htext, List.tail_cons] at htail
  have hrest := h.plain htail
  rw [htext, List.cons_append]
  refine ⟨List.forall_mem_cons.2 ⟨by decide, hrest.unmarked⟩, ?_⟩
  intro before later hcs
  cases before with
  | nil =>
    obtain rfl := (List.cons.inj hcs).2
    exact ⟨entity, hentity, cs, by rw [htext, List.cons_append]⟩
  | cons first before => exact hrest.entities before later (List.cons.inj hcs).2

theorem flatMap_htmlChar (cs : List Char) : IsEscaped (cs.flatMap htmlChar) := by
  induction cs with
  | nil => exact nil
  | cons c cs ih =>
    rw [List.flatMap_cons]
    by_cases hc : c ∈ htmlEntities.map Prod.fst
    · obtain ⟨entry, hentry, rfl⟩ := List.mem_map.1 hc
      rw [htmlChar_of_mem hentry]
      exact ih.entity hentry
    · rw [htmlChar_of_not_mem hc]
      exact ih.cons hc

/-- Taken apart at its entities, an escaped text tells what it was made from. -/
theorem exists_unescaped (h : IsEscaped cs) : ∃ ds : List Char, ds.flatMap htmlChar = cs := by
  induction hlength : cs.length using Nat.strongRecOn generalizing cs with
  | ind n ih =>
    cases cs with
    | nil => exact ⟨[], rfl⟩
    | cons c rest =>
      -- an ampersand takes its entity along, any other character stands for itself
      by_cases hamp : c = '&'
      · subst hamp
        obtain ⟨entry, hentry, tail, htail⟩ := h.entities [] rest rfl
        have hshorter : tail.length < n := by
          have hnonempty : ∀ e ∈ htmlEntities, 0 < e.2.toList.length := by decide
          have := hnonempty entry hentry
          rw [← hlength, ← htail, List.length_append]
          omega
        rw [← htail] at h ⊢
        obtain ⟨ds, hds⟩ := ih tail.length hshorter h.of_append rfl
        exact ⟨entry.1 :: ds, by rw [List.flatMap_cons, htmlChar_of_mem hentry, hds]⟩
      · have hc : c ∉ htmlEntities.map Prod.fst := by
          obtain ⟨hlt, hgt, hquote, hapostrophe⟩ := h.unmarked c (List.mem_cons_self ..)
          simp [htmlEntities, ampersand, hamp, hlt, hgt, hquote, hapostrophe]
        have hsplit : IsEscaped ([c] ++ rest) := h
        have hrest := hsplit.of_append
        obtain ⟨ds, hds⟩ := ih rest.length (by rw [← hlength]; exact Nat.lt_succ_self _) hrest rfl
        exact ⟨c :: ds, by rw [List.flatMap_cons, htmlChar_of_not_mem hc, hds]; rfl⟩

end IsEscaped

/-- Just the escaped texts come from escaping. -/
theorem isEscaped_iff (t : String) : IsEscaped t.toList ↔ ∃ s, escapeHtml s = t := by
  constructor
  · intro h
    obtain ⟨ds, hds⟩ := h.exists_unescaped
    exact ⟨String.ofList ds, by rw [escapeHtml, String.toList_ofList, hds, String.ofList_toList]⟩
  · rintro ⟨s, rfl⟩
    rw [escapeHtml, String.toList_ofList]
    exact IsEscaped.flatMap_htmlChar s.toList

section Order

variable {entry later : Char × String} {front back order : List (Char × String)}

/-- The other four characters do not occur in entities. -/
theorem not_mem_entity : ∀ entry ∈ htmlEntities, ∀ later ∈ htmlEntities, later ≠ ampersand →
    later.1 ∉ entry.2.toList := by decide

theorem mem_others (h : (front ++ ampersand :: back).Perm htmlEntities)
    (hentry : entry ∈ front ++ back) : entry ∈ htmlEntities ∧ entry ≠ ampersand := by
  have hnodup : (front ++ ampersand :: back).Nodup := h.nodup_iff.2 (by decide)
  refine ⟨h.mem_iff.1 (List.perm_middle.mem_iff.2 (List.mem_cons_of_mem _ hentry)), ?_⟩
  rintro rfl
  exact (List.nodup_cons.1 (List.nodup_middle.1 hnodup)).1 hentry

/-- When the ampersand comes first, no replacement finds anything in what earlier ones wrote. -/
theorem replacedInTurn_ampersand (h : (ampersand :: back).Perm htmlEntities) (s : String) :
    replacedInTurn (ampersand :: back) s = escapeHtml s := by
  have hsplit : ([] ++ ampersand :: back).Perm htmlEntities := h
  have hapart {entry later : Char × String} (hentry : entry ∈ ampersand :: back)
      (hlater : later ∈ back) : later.1 ∉ entry.2.toList := by
    obtain ⟨hmem, hne⟩ := mem_others hsplit hlater
    exact not_mem_entity entry (h.mem_iff.1 hentry) later hmem hne
  have hpairwise : (ampersand :: back).Pairwise fun entry later => later.1 ∉ entry.2.toList := by
    rw [List.pairwise_cons]
    refine ⟨fun later hlater => hapart (List.mem_cons_self ..) hlater, ?_⟩
    apply List.pairwise_of_forall_mem_list
    intro entry hentry later hlater
    exact hapart (List.mem_cons_of_mem _ hentry) hlater
  rw [replacedInTurn_eq_atOnce hpairwise, escapeHtml_eq_atOnce, replacedAtOnce, replacedAtOnce,
    substitute_perm h htmlEntities_keys]

/-- The entity of a character that comes before the ampersand is escaped again. -/
theorem replacedInTurn_before_ampersand
    (h : (entry :: (front ++ ampersand :: back)).Perm htmlEntities) :
    replacedInTurn (entry :: (front ++ ampersand :: back)) (String.singleton entry.1) ≠
      escapeHtml (String.singleton entry.1) := by
  have hagain : ∀ entry ∈ htmlEntities, replaceAll entry.2 '&' "&amp;" ≠ entry.2 ∧
      ∀ later ∈ htmlEntities, later ≠ ampersand →
        later.1 ∉ (replaceAll entry.2 '&' "&amp;").toList := by decide
  have hsplit : ((entry :: front) ++ ampersand :: back).Perm htmlEntities := h
  have hothers {later : Char × String} (hlater : later ∈ front ++ back) :
      later ∈ htmlEntities ∧ later ≠ ampersand := by
    apply mem_others hsplit
    exact List.mem_cons_of_mem _ hlater
  have hentry : entry ∈ htmlEntities := h.mem_iff.1 (List.mem_cons_self ..)
  obtain ⟨htwice, hkept⟩ := hagain entry hentry
  have hwritten : replaceAll (String.singleton entry.1) entry.1 entry.2 = entry.2 := by
    simp [replaceAll]
  have hfront : replacedInTurn front entry.2 = entry.2 := by
    apply replacedInTurn_of_not_mem
    intro later hlater
    obtain ⟨hmem, hne⟩ := hothers (List.mem_append_left back hlater)
    exact not_mem_entity entry hentry later hmem hne
  have hback : replacedInTurn back (replaceAll entry.2 '&' "&amp;") =
      replaceAll entry.2 '&' "&amp;" := by
    apply replacedInTurn_of_not_mem
    intro later hlater
    obtain ⟨hmem, hne⟩ := hothers (List.mem_append_right front hlater)
    exact hkept later hmem hne
  have hescaped : escapeHtml (String.singleton entry.1) = entry.2 := by
    simp [escapeHtml, htmlChar_of_mem hentry]
  have hturns : replacedInTurn (entry :: (front ++ ampersand :: back)) (String.singleton entry.1) =
      replaceAll entry.2 '&' "&amp;" := by
    calc
      replacedInTurn (entry :: (front ++ ampersand :: back)) (String.singleton entry.1)
          = replacedInTurn back (replaceAll (replacedInTurn front
              (replaceAll (String.singleton entry.1) entry.1 entry.2)) '&' "&amp;") := by
        unfold replacedInTurn
        rw [List.foldl_cons, List.foldl_append, List.foldl_cons]
        rfl
      _ = replacedInTurn back (replaceAll entry.2 '&' "&amp;") := by rw [hwritten, hfront]
      _ = replaceAll entry.2 '&' "&amp;" := hback
  rwa [hturns, hescaped]

/-- Replacing the characters one after the other is right just if the ampersand comes first. -/
theorem replacedInTurn_iff (h : order.Perm htmlEntities) :
    (∀ s, replacedInTurn order s = escapeHtml s) ↔ order.head? = some ampersand := by
  constructor
  · intro hsame
    have hampersand : ampersand ∈ order := h.mem_iff.2 (by decide)
    obtain ⟨front, back, rfl⟩ := List.append_of_mem hampersand
    cases front with
    | nil => rfl
    | cons entry front => exact absurd (hsame _) (replacedInTurn_before_ampersand h)
  · intro hfirst
    obtain ⟨back, rfl⟩ := List.head?_eq_some_iff.1 hfirst
    exact replacedInTurn_ampersand h

end Order

/-- Escaping replaces each of the five characters by its entity in one pass. To replace them one
after the other, in the text that the replacements before have left, comes to the same, and it does
so in just the orders that begin with the ampersand. The escaped texts are those in which every
ampersand begins one of the five entities and none of the other four characters is left. Reading the
entities in one pass gives the text back, so that different texts never have the same escaped
text. -/
theorem escapeHtml_encodes :
    (∀ s, replacedInTurn htmlEntities s = escapeHtml s ∧
      escapeHtml s = replacedAtOnce htmlEntities s) ∧
    (∀ order : List (Char × String), order.Perm htmlEntities →
      ((∀ s, replacedInTurn order s = escapeHtml s) ↔ order.head? = some ampersand)) ∧
    (∀ t : String, IsEscaped t.toList ↔ ∃ s, escapeHtml s = t) ∧
    (∀ s, decodeEntities (escapeHtml s).toList = s.toList) ∧
    ∀ s t, escapeHtml s = escapeHtml t → s = t := by
  refine ⟨fun s => ⟨?_, escapeHtml_eq_atOnce s⟩, fun order horder => replacedInTurn_iff horder,
    isEscaped_iff, decodeEntities_escapeHtml, fun s t h => escapeHtml_inj.1 h⟩
  exact replacedInTurn_ampersand (List.Perm.refl _) s

/-- A text that holds an entity beside what entities stand for. -/
def markedText : String := "\"a\" < &lt; 'b'"

theorem escapeHtml_encodes_marked :
    htmlEntities.reverse.Perm htmlEntities ∧
      escapeHtml markedText = "&quot;a&quot; &lt; &amp;lt; &#39;b&#39;" ∧
      replacedInTurn htmlEntities markedText = escapeHtml markedText ∧
      ¬ (∀ s, replacedInTurn htmlEntities.reverse s = escapeHtml s) ∧
      IsEscaped (escapeHtml markedText).toList ∧
      decodeEntities (escapeHtml markedText).toList = markedText.toList ∧
      escapeHtml "&lt;" ≠ escapeHtml "<" := by
  obtain ⟨hturns, horders, hescaped, hread, hinj⟩ := escapeHtml_encodes
  have hreverse : htmlEntities.reverse.Perm htmlEntities := List.reverse_perm _
  refine ⟨hreverse, by decide, (hturns markedText).1, ?_, (hescaped _).2 ⟨markedText, rfl⟩,
    hread markedText, fun h => absurd (hinj _ _ h) (by decide)⟩
  rw [horders _ hreverse]
  decide

end PageBuilder
