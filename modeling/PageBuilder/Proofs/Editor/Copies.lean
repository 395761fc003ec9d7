import PageBuilder.Proofs.Editor.OpenSection

/-!
Copies with new ids. A copy takes the next numbers of its source in preorder, one for each element,
and has everything but the ids from the original. Two copies in a row have no id in common, also where
the numbers of the second one begin again at zero.
-/

namespace PageBuilder

mutual

/-- The element with an empty id, and so all elements below it. -/
def Element.withoutIds : Element → Element
  | .mk node children => .mk { node with id := "" } (Forest.withoutIds children)

/-- The forest with empty ids throughout. -/
def Forest.withoutIds : List Element → List Element
  | [] => []
  | e :: rest => e.withoutIds :: Forest.withoutIds rest

end

mutual

theorem Element.withFreshIds_withoutIds (s : IdSource) (e : Element) :
    (e.withFreshIds s).1.withoutIds = e.withoutIds := by
  cases e with
  | mk node children =>
    simp only [Element.withFreshIds, Element.withoutIds,
      Forest.withFreshIds_withoutIds s.next.2 children]

/-- A copy differs from the original in its ids only. -/
theorem Forest.withFreshIds_withoutIds (s : IdSource) (forest : Forest) :
    Forest.withoutIds (Forest.withFreshIds s forest).1 = Forest.withoutIds forest := by
  cases forest with
  | nil => rfl
  | cons e rest =>
    simp only [Forest.withFreshIds, Forest.withoutIds, Element.withFreshIds_withoutIds s e,
      Forest.withFreshIds_withoutIds (e.withFreshIds s).2 rest]

end

namespace Forest

/-- `copy` is a forest of the same shape with the same data, whose ids are the next ones of the source
in preorder; `rest` is the source behind them. They are distinct, and a copy that is made next, of
whatever forest, has none of them, unless the two copies have more elements than there are numbers. -/
structure Numbers (s : IdSource) (forest copy : Forest) (rest : IdSource) : Prop where
  ids : Forest.ids copy =
    (List.range' (s.issued + 1) (Forest.count forest)).map (IdSource.idOf s.seed)
  source : rest = ⟨s.seed, s.issued + Forest.count forest⟩
  kept : Forest.withoutIds copy = Forest.withoutIds forest
  distinct : (Forest.ids copy).Nodup
  apart : ∀ other : Forest, Forest.count forest + Forest.count other ≤ wordLimit →
    ∀ id ∈ Forest.ids copy, id ∉ Forest.ids (Forest.withFreshIds rest other).1

theorem withFreshIds_numbers {s : IdSource} {forest : Forest}
    (hroom : s.issued + count forest < wordLimit) :
    Numbers s forest (Forest.withFreshIds s forest).1 (Forest.withFreshIds s forest).2 := by
  have hnodes : s.issued + (nodes forest).length < wordLimit := by
    rwa [count_eq] at hroom
  obtain ⟨hids, hsource⟩ := Forest.withFreshIds_upcoming s forest hnodes
  rw [← ids_eq, ← count_eq] at hids
  rw [← count_eq] at hsource
  refine ⟨hids, hsource, Forest.withFreshIds_withoutIds s forest, ?_, fun other hcycle id hid => ?_⟩
  · rw [hids]
    exact s.nodup_upcoming _
  · rw [hids] at hid
    rw [ids_eq, hsource, (Forest.withFreshIds_cycle _ other).1, ← count_eq]
    exact IdSource.not_mem_cycle_of_mem_upcoming hroom hcycle hid

end Forest

namespace Editor

/-- Copying an element or a forest with new ids numbers the copy in preorder from the source and
changes nothing else, as long as the numbers last. Loading a template into an open section leaves
such a copy there. -/
theorem copies_number_preorder :
    (∀ (s : IdSource) (e : Element), s.issued + Forest.count [e] < wordLimit →
      Forest.Numbers s [e] [(e.withFreshIds s).1] (e.withFreshIds s).2) ∧
    (∀ (s : IdSource) (forest : Forest), s.issued + Forest.count forest < wordLimit →
      Forest.Numbers s forest (Forest.withFreshIds s forest).1 (Forest.withFreshIds s forest).2) ∧
    ∀ (e : Editor) (now : Int) (forest : Forest), e.state.Opened →
      e.ids.issued + Forest.count forest < wordLimit →
      let next := (e.step now (.loadTemplate forest)).2
      Forest.Numbers e.ids forest next.state.elements next.ids := by
  refine ⟨fun s e hroom => ?_, fun s forest hroom => Forest.withFreshIds_numbers hroom, ?_⟩
  · -- an element is copied like a forest of one
    have hone : Forest.withFreshIds s [e] = ([(e.withFreshIds s).1], (e.withFreshIds s).2) := rfl
    have hnumbers := Forest.withFreshIds_numbers hroom
    rwa [hone] at hnumbers
  · intro e now forest hopened hroom next
    have helements : next.state.elements = (Forest.withFreshIds e.ids forest).1 :=
      EditorState.withElements_elements hopened _
    have hids : next.ids = (Forest.withFreshIds e.ids forest).2 := rfl
    rw [helements, hids]
    exact Forest.withFreshIds_numbers hroom

/-- A box with a card of the same id in it, and a text in the card. -/
def boxOfNamesake : Element :=
  (Element.new "x" .container).withChild ((Element.new "x" .card).withChild (.new "y" .text))

theorem copies_number_preorder_box :
    let s : IdSource := ⟨"f6e9fbe0", 3⟩
    let copy := boxOfNamesake.withFreshIds s
    let two : Forest := [boxOfNamesake, boxOfNamesake]
    let e := Editor.new {} "oracle"
    let next := (e.step 0 (.loadTemplate two)).2
    s.issued + Forest.count [boxOfNamesake] < wordLimit ∧
      Forest.Numbers s [boxOfNamesake] [copy.1] copy.2 ∧
      Forest.ids [copy.1] = ["f6e9fbe0-4", "f6e9fbe0-5", "f6e9fbe0-6"] ∧
      Forest.count [boxOfNamesake] + Forest.count two ≤ wordLimit ∧
      (∀ id ∈ Forest.ids [copy.1], id ∉ Forest.ids (Forest.withFreshIds copy.2 two).1) ∧
      s.issued + Forest.count two < wordLimit ∧
      Forest.Numbers s two (Forest.withFreshIds s two).1 (Forest.withFreshIds s two).2 ∧
      e.state.Opened ∧ e.ids.issued + Forest.count two < wordLimit ∧
      Forest.Numbers e.ids two next.state.elements next.ids := by
  intro s copy two e next
  have hone : s.issued + Forest.count [boxOfNamesake] < wordLimit := by decide +kernel
  have htwo : s.issued + Forest.count two < wordLimit := by decide +kernel
  have hopened : e.state.Opened := by decide +kernel
  have hroom : e.ids.issued + Forest.count two < wordLimit := by decide +kernel
  have hids : Forest.ids [copy.1] = ["f6e9fbe0-4", "f6e9fbe0-5", "f6e9fbe0-6"] := by
    decide +kernel
  have hcycle : Forest.count [boxOfNamesake] + Forest.count two ≤ wordLimit := by decide +kernel
  obtain ⟨helement, hforest, htemplate⟩ := copies_number_preorder
  have hcopy : Forest.Numbers s [boxOfNamesake] [copy.1] copy.2 := helement s _ hone
  exact ⟨hone, hcopy, hids, hcycle, hcopy.apart two hcycle, htwo, hforest s two htwo, hopened,
    hroom, htemplate e 0 two hopened hroom⟩

end Editor

end PageBuilder
