import PageBuilder.Dimension
import PageBuilder.Proofs.Decimal.Numeral
import PageBuilder.Proofs.Json.Alike

/-!
Positions and sizes read back from JSON. Of a length the text before its unit has to read back as a
number; the unit and the trimming around it are no obstacle, since no number has a blank in it.
-/

namespace PageBuilder

/-- A number that equals a finite one is finite. -/
theorem isFinite_of_beq {x y : Float} (h : (y == x) = true) (hx : x.isFinite = true) :
    y.isFinite = true := by
  have hcompare : (y.toModel.unpack.compare x.toModel.unpack == some .eq) = true := h
  change x.toModel.unpack.isFinite = true at hx
  change y.toModel.unpack.isFinite = true
  revert hcompare hx
  cases x.toModel.unpack with
  | notANumber => intro _ hx; cases hx
  | infinity s => intro _ hx; cases hx
  | zero s =>
    cases y.toModel.unpack with
    | notANumber => intro h; cases h
    | infinity t => cases t <;> (intro h; cases h)
    | _ => intros; rfl
  | finite s m e hm =>
    cases y.toModel.unpack with
    | notANumber => intro h; cases h
    | infinity t => cases t <;> (intro h; cases h)
    | _ => intros; rfl

theorem ofText_formatPx (x : Float) :
    Dimension.ofText (formatPx x) =
      match readDouble? (pxNumber x) with
      | some y => if y.isFinite then .ok (.px y) else .error (.dimension (formatPx x))
      | none => .error (.dimension (formatPx x)) := by
  have hnumber := (numeral_pxNumber x).unblank
  have hchars : (formatPx x).toList = (pxNumber x).toList ++ "px".toList := by
    rw [formatPx_eq, String.toList_append]
  have hall : trimChars (formatPx x).toList = (pxNumber x).toList ++ "px".toList := by
    rw [hchars]
    exact (hnumber.append (by unfold Unblank; decide)).trim
  have hauto : (pxNumber x).toList ++ "px".toList ≠ "auto".toList := by
    intro heq
    have hlast := congrArg List.getLast? heq
    rw [List.getLast?_append] at hlast
    change some 'x' = some 'o' at hlast
    exact absurd hlast (by decide)
  have hbefore : beforeBack? "px".toList ((pxNumber x).toList ++ "px".toList) =
      some (pxNumber x).toList := by
    unfold beforeBack?
    rw [if_pos (List.isSuffixOf_iff_suffix.2 (List.suffix_append _ _)), List.length_append,
      Nat.add_sub_cancel, List.take_left]
  have htrim : trim (String.ofList (pxNumber x).toList) = pxNumber x := by
    rw [trim, String.toList_ofList, hnumber.trim, String.ofList_toList]
  unfold Dimension.ofText
  cases hread : readDouble? (pxNumber x) <;>
    simp only [hall, if_neg hauto, hbefore, Option.bind_some, htrim, hread]

/-- What is written for a length is read as an equal number. -/
def Dimension.ReadsBack : Dimension → Prop
  | .px x => x.isFinite = true ∧ ∃ y, readDouble? (pxNumber x) = some y ∧ (y == x) = true
  | .auto => True

/-- Both coordinates read back. -/
def Position.ReadsBack (p : Position) : Prop :=
  (Json.Number.float p.x).ReadsBack ∧ (Json.Number.float p.y).ReadsBack

def Size.ReadsBack (s : Size) : Prop := s.width.ReadsBack ∧ s.height.ReadsBack

theorem Dimension.ofText_text {d : Dimension} (h : d.ReadsBack) :
    ∃ e, ofText d.text = .ok e ∧ e.same d = true := by
  cases d with
  | px x =>
    obtain ⟨hfinite, y, hy, heq⟩ := h
    refine ⟨.px y, ?_, heq⟩
    rw [Dimension.text, ofText_formatPx, hy]
    dsimp only
    rw [if_pos (isFinite_of_beq heq hfinite)]
  | auto => exact ⟨.auto, rfl, rfl⟩

theorem Dimension.ofJson?_like {d : Dimension} (h : d.ReadsBack) {j : Json} (hj : j.Like d.toJson) :
    ∃ e, ofJson? j = some e ∧ e.same d = true := by
  obtain ⟨e, he, hsame⟩ := ofText_text h
  obtain rfl : j = .str d.text := hj
  exact ⟨e, by rw [ofJson?, he]; rfl, hsame⟩

theorem Size.toJson_writable (s : Size) : s.toJson.Writable := by
  exact ⟨by simp [DistinctKeys], trivial, trivial, trivial⟩

theorem Size.ofJson?_like {s : Size} (h : s.ReadsBack) {j : Json} (hj : j.Like s.toJson) :
    ∃ t, ofJson? j = some t ∧ t.same s = true := by
  obtain ⟨f, hf, hold⟩ := hj.fields fieldNames
  obtain ⟨w, hw, hwidth⟩ := hold.required "width" (by decide) (by simp)
    fun x hx => Dimension.ofJson?_like h.1 hx
  obtain ⟨v, hv, hheight⟩ := hold.required "height" (by decide) (by simp)
    fun x hx => Dimension.ofJson?_like h.2 hx
  refine ⟨⟨w, v⟩, ?_, by rw [Size.same, hwidth, hheight, Bool.and_self]⟩
  simp only [ofJson?, hf, hw, hv, Option.bind_eq_bind, Option.bind_some]
  rfl

namespace Json

/-- A double that is not finite is not written as a number. -/
theorem Number.ReadsBack.isFinite {x : Float} (h : (Number.float x).ReadsBack) :
    x.isFinite = true := by
  obtain ⟨m, hm, -⟩ := h
  by_contra hx
  have hchars : (Number.float x).chars = "null".toList := by
    rw [Number.chars, if_pos (by simpa using hx)]
  rw [hchars] at hm
  cases hm

theorem ofFloat_eq {x : Float} (h : (Number.float x).ReadsBack) :
    ofFloat x = .num (.float x) := if_pos h.isFinite

/-- A coordinate or another double is read as an equal one. -/
theorem Like.float {x : Float} (h : (Number.float x).ReadsBack) {j : Json}
    (hj : j.Like (.ofFloat x)) : ∃ y, j.float? = some y ∧ (y == x) = true := by
  rw [ofFloat_eq h] at hj
  obtain ⟨m, rfl, hm⟩ := hj
  cases m with
  | int n => cases hm
  | float y => exact ⟨y, rfl, hm⟩

end Json

theorem Position.toJson_writable {p : Position} (h : p.ReadsBack) : p.toJson.Writable := by
  unfold toJson
  rw [Json.ofFloat_eq h.1, Json.ofFloat_eq h.2]
  exact ⟨by simp [DistinctKeys], h.1, h.2, trivial⟩

theorem Position.ofJson?_like {p : Position} (h : p.ReadsBack) {j : Json} (hj : j.Like p.toJson) :
    ∃ q, ofJson? j = some q ∧ q.same p = true := by
  obtain ⟨f, hf, hold⟩ := hj.fields fieldNames
  obtain ⟨x, hx, hsamex⟩ := hold.required "x" (by decide) (by simp)
    fun j hj => Json.Like.float h.1 hj
  obtain ⟨y, hy, hsamey⟩ := hold.required "y" (by decide) (by simp)
    fun j hj => Json.Like.float h.2 hj
  refine ⟨⟨x, y⟩, ?_, by rw [Position.same, hsamex, hsamey, Bool.and_self]⟩
  simp only [ofJson?, hf, hx, hy, Option.bind_eq_bind, Option.bind_some]
  rfl

end PageBuilder
