import PageBuilder.Proofs.Files.Tree
import PageBuilder.Proofs.Store.DataUris
import PageBuilder.Store.Export
import Mathlib.Data.Nat.Find

/-!
Exports that fall back. The targets are asked one after the other, each in the world that those
before it left, until the first delivery that proves right; none behind it is asked. Without such a
delivery all of them were asked, and the failure gives the reason of each.
-/

namespace PageBuilder

namespace ExportSink

variable {σ τ : Type}

/-- The target delivers in a world, and its delivery proves right. -/
def Delivers (sink : ExportSink σ) (stem json : String) (world : σ) (d : Delivery) : Prop :=
  (sink.deliver stem json world).1 = .ok d ∧
    sink.verify d json (sink.deliver stem json world).2 = true

/-- What is told of a target that did not deliver, or whose delivery did not prove right. -/
def reason (sink : ExportSink σ) (stem json : String) (world : σ) : String :=
  match (sink.deliver stem json world).1 with
  | .ok d => d.sink ++ ": written data did not verify"
  | .error e => sink.name ++ ": " ++ e.message

/-- The world after targets were asked one after the other, each of them once. -/
def worldAfter (stem json : String) (sinks : List (ExportSink σ)) (world : σ) : σ :=
  sinks.foldl (fun world sink => (sink.deliver stem json world).2) world

/-- The target at a place delivers, once those before it were asked, and its delivery proves
right. -/
def DeliversAt (stem json : String) (sinks : List (ExportSink σ)) (world : σ) (i : Nat)
    (d : Delivery) : Prop :=
  ∃ sink, sinks[i]? = some sink ∧
    sink.Delivers stem json (worldAfter stem json (sinks.take i) world) d

/-- A target that also notes its number when it is asked. -/
def noting (sink : ExportSink σ) (number : Nat) : ExportSink (σ × List Nat) where
  name := sink.name
  deliver stem json world :=
    ((sink.deliver stem json world.1).1, (sink.deliver stem json world.1).2, world.2 ++ [number])
  verify d json world := sink.verify d json world.1

/-- Targets that note their places in the list, the first one being `start`. -/
def noted (start : Nat) : List (ExportSink σ) → List (ExportSink (σ × List Nat))
  | [] => []
  | sink :: rest => sink.noting start :: noted (start + 1) rest

variable {stem json : String} {sink : ExportSink σ} {rest sinks : List (ExportSink σ)} {world : σ}
  {d : Delivery}

theorem deliverTo_cons_of_delivers (h : sink.Delivers stem json world d) :
    deliverTo stem json (sink :: rest) world = (.ok d, (sink.deliver stem json world).2) := by
  obtain ⟨hresult, hverify⟩ := h
  rw [deliverTo]
  generalize sink.deliver stem json world = outcome at hresult hverify ⊢
  obtain ⟨result, after⟩ := outcome
  subst hresult
  exact if_pos hverify

/-- A target that does not hold the backup leaves its world, and its reason, to those behind it. -/
theorem deliverTo_cons_of_not (h : ∀ d, ¬ sink.Delivers stem json world d) :
    deliverTo stem json (sink :: rest) world =
      ((deliverTo stem json rest (sink.deliver stem json world).2).1.mapError
          (sink.reason stem json world :: ·),
        (deliverTo stem json rest (sink.deliver stem json world).2).2) := by
  unfold Delivers at h
  rw [deliverTo, reason]
  generalize sink.deliver stem json world = outcome at h ⊢
  obtain ⟨result, after⟩ := outcome
  cases result with
  | ok d => exact if_neg fun hverify => h d ⟨rfl, hverify⟩
  | error e => rfl

theorem deliversAt_zero :
    DeliversAt stem json (sink :: rest) world 0 d ↔ sink.Delivers stem json world d := by
  constructor
  · rintro ⟨first, hfirst, hd⟩
    obtain rfl := Option.some.inj hfirst
    exact hd
  · exact fun hd => ⟨sink, rfl, hd⟩

theorem deliversAt_succ {i : Nat} :
    DeliversAt stem json (sink :: rest) world (i + 1) d ↔
      DeliversAt stem json rest (sink.deliver stem json world).2 i d := Iff.rfl

theorem exists_first (h : ∃ i d, DeliversAt stem json sinks world i d) :
    ∃ i d, DeliversAt stem json sinks world i d ∧
      ∀ j < i, ∀ other, ¬ DeliversAt stem json sinks world j other := by
  classical
  obtain ⟨d, hd⟩ := Nat.find_spec h
  exact ⟨Nat.find h, d, hd, fun j hj other hother => Nat.find_min h hj ⟨other, hother⟩⟩

/-- The first delivery that proves right counts, in the world that the targets before it left. -/
theorem deliverTo_first {i : Nat} (hd : DeliversAt stem json sinks world i d)
    (hfirst : ∀ j < i, ∀ other, ¬ DeliversAt stem json sinks world j other) :
    deliverTo stem json sinks world =
      (.ok d, worldAfter stem json (sinks.take (i + 1)) world) := by
  induction sinks generalizing world i with
  | nil =>
    obtain ⟨sink, hsink, -⟩ := hd
    cases hsink
  | cons first rest ih =>
    cases i with
    | zero => exact deliverTo_cons_of_delivers (deliversAt_zero.1 hd)
    | succ i =>
      have hnot (other : Delivery) : ¬ first.Delivers stem json world other := fun hother =>
        hfirst 0 (Nat.succ_pos i) other (deliversAt_zero.2 hother)
      have hrest := ih (deliversAt_succ.1 hd) fun j hj other hother =>
        hfirst (j + 1) (Nat.succ_lt_succ hj) other (deliversAt_succ.2 hother)
      rw [deliverTo_cons_of_not hnot, hrest]
      rfl

/-- Without a delivery that proves right all targets were asked, and there is a reason for each. -/
theorem deliverTo_none (hnone : ∀ i d, ¬ DeliversAt stem json sinks world i d) :
    deliverTo stem json sinks world =
      (.error (sinks.mapIdx fun i sink =>
        sink.reason stem json (worldAfter stem json (sinks.take i) world)),
        worldAfter stem json sinks world) := by
  induction sinks generalizing world with
  | nil => rfl
  | cons first rest ih =>
    have hnot (d : Delivery) : ¬ first.Delivers stem json world d := fun hd =>
      hnone 0 d (deliversAt_zero.2 hd)
    have hrest := ih fun i d hd => hnone (i + 1) d (deliversAt_succ.2 hd)
    rw [deliverTo_cons_of_not hnot, hrest, List.mapIdx_cons]
    rfl

theorem worldAfter_take_succ {i : Nat} (hsink : sinks[i]? = some sink) :
    worldAfter stem json (sinks.take (i + 1)) world =
      (sink.deliver stem json (worldAfter stem json (sinks.take i) world)).2 := by
  rw [worldAfter, List.take_add_one, hsink, List.foldl_append]
  rfl

/-- What counts as delivered was delivered by one of the targets, in the world it left. -/
theorem deliverTo_ok {after : σ} (h : deliverTo stem json sinks world = (.ok d, after)) :
    ∃ sink ∈ sinks, ∃ before, sink.deliver stem json before = (.ok d, after) := by
  by_cases hsome : ∃ i d, DeliversAt stem json sinks world i d
  · obtain ⟨i, found, hfound, hfirst⟩ := exists_first hsome
    rw [deliverTo_first hfound hfirst] at h
    cases h
    obtain ⟨sink, hsink, hdelivers⟩ := hfound
    rw [worldAfter_take_succ hsink]
    exact ⟨sink, List.mem_of_getElem? hsink, _, Prod.ext hdelivers.1 rfl⟩
  · rw [deliverTo_none fun i d hd => hsome ⟨i, d, hd⟩] at h
    cases h

section Noted

variable {start i : Nat} {log : List Nat}

theorem noting_delivers :
    (sink.noting start).Delivers stem json (world, log) d ↔ sink.Delivers stem json world d :=
  Iff.rfl

theorem noted_deliversAt :
    DeliversAt stem json (noted start sinks) (world, log) i d ↔
      DeliversAt stem json sinks world i d := by
  induction sinks generalizing start world log i with
  | nil =>
    constructor
    · rintro ⟨sink, hsink, -⟩
      cases hsink
    · rintro ⟨sink, hsink, -⟩
      cases hsink
  | cons first rest ih =>
    cases i with
    | zero => rw [noted, deliversAt_zero, deliversAt_zero, noting_delivers]
    | succ i => exact ih

/-- Targets that note their numbers fail for the same reasons. -/
theorem noted_reasons :
    ((noted start sinks).mapIdx fun i sink =>
      sink.reason stem json (worldAfter stem json ((noted start sinks).take i) (world, log))) =
    sinks.mapIdx fun i sink =>
      sink.reason stem json (worldAfter stem json (sinks.take i) world) := by
  induction sinks generalizing start world log with
  | nil => rfl
  | cons first rest ih =>
    rw [noted, List.mapIdx_cons, List.mapIdx_cons]
    exact congrArg₂ List.cons rfl ih

theorem noted_take : (noted start sinks).take i = noted start (sinks.take i) := by
  induction sinks generalizing start i with
  | nil => rw [noted, List.take_nil, List.take_nil, noted]
  | cons first rest ih =>
    cases i with
    | zero => rfl
    | succ i => rw [noted, List.take_succ_cons, ih, List.take_succ_cons, noted]

/-- Targets that note their numbers leave the world as they would otherwise, and the numbers in
order. -/
theorem worldAfter_noted :
    worldAfter stem json (noted start sinks) (world, log) =
      (worldAfter stem json sinks world, log ++ List.range' start sinks.length) := by
  induction sinks generalizing start world log with
  | nil => exact Prod.ext rfl (List.append_nil log).symm
  | cons first rest ih =>
    have hlog : log ++ List.range' start (rest.length + 1) =
        (log ++ [start]) ++ List.range' (start + 1) rest.length := by
      rw [List.append_assoc]
      rfl
    rw [List.length_cons, hlog]
    exact ih

/-- Up to the first delivery that proves right each target was asked once, in order, and none behind
it. -/
theorem deliverTo_noted_first (hd : DeliversAt stem json sinks world i d)
    (hfirst : ∀ j < i, ∀ other, ¬ DeliversAt stem json sinks world j other) :
    deliverTo stem json (noted 0 sinks) (world, []) =
      (.ok d, worldAfter stem json (sinks.take (i + 1)) world, List.range (i + 1)) := by
  have hnoted : DeliversAt stem json (noted 0 sinks) (world, []) i d := noted_deliversAt.2 hd
  obtain ⟨sink, hsink, -⟩ := hd
  have hlength : i + 1 ≤ sinks.length := (List.getElem?_eq_some_iff.1 hsink).1
  rw [deliverTo_first hnoted fun j hj other hother => hfirst j hj other (noted_deliversAt.1 hother),
    noted_take, worldAfter_noted, List.length_take, Nat.min_eq_left hlength, List.nil_append,
    List.range_eq_range']

/-- Without a delivery that proves right each target was asked once, in order. -/
theorem deliverTo_noted_none (hnone : ∀ i d, ¬ DeliversAt stem json sinks world i d) :
    deliverTo stem json (noted 0 sinks) (world, []) =
      (.error (sinks.mapIdx fun i sink =>
        sink.reason stem json (worldAfter stem json (sinks.take i) world)),
        worldAfter stem json sinks world, List.range sinks.length) := by
  have hnoted (i : Nat) (d : Delivery) :
      ¬ DeliversAt stem json (noted 0 sinks) (world, []) i d := fun hd =>
    hnone i d (noted_deliversAt.1 hd)
  rw [deliverTo_none hnoted, noted_reasons, worldAfter_noted, List.nil_append, List.range_eq_range']

end Noted

section Files

theorem fileSink_written {name ending dir stem json : String} {encode : String → String}
    {verify : String → String → Bool} {files files' : FileTree} {d : Delivery}
    (h : (fileSink name ending encode verify dir).deliver stem json files = (.ok d, files')) :
    files'.readText d.location = .ok (encode json) := by
  simp only [fileSink] at h
  split at h
  · cases h
  · split at h
    · cases h
    · cases h
      exact FileTree.readText_write ‹_›

variable {part : σ → FileTree} {replace : FileTree → σ → σ} {name ending dir : String}
  {encode : String → String} {verify : String → String → Bool}

/-- A file that was delivered holds what was made of the backup. -/
theorem fileSink_delivers (hpart : ∀ files world, part (replace files world) = files)
    (h : ((fileSink name ending encode verify dir).within part replace).Delivers stem json world d) :
    (part (((fileSink name ending encode verify dir).within part replace).deliver stem json
      world).2).readText d.location = .ok (encode json) := by
  have hworld : part (((fileSink name ending encode verify dir).within part replace).deliver stem
      json world).2 = ((fileSink name ending encode verify dir).deliver stem json (part world)).2 :=
    hpart _ _
  rw [hworld]
  exact fileSink_written (Prod.ext h.1 rfl)

/-- A file that was delivered proves right, if what is made of a backup does. -/
theorem fileSink_proves {files files' : FileTree} (hverify : verify json (encode json) = true)
    (h : (fileSink name ending encode verify dir).deliver stem json files = (.ok d, files')) :
    (fileSink name ending encode verify dir).Delivers stem json files d := by
  have hwritten := fileSink_written h
  rw [Delivers, h]
  refine ⟨rfl, ?_⟩
  simp only [fileSink, hwritten, hverify]

theorem jsonFile_delivers {files files' : FileTree}
    (h : (jsonFile dir).deliver stem json files = (.ok d, files')) :
    (jsonFile dir).Delivers stem json files d := fileSink_proves (beq_self_eq_true json) h

theorem base64File_delivers {files files' : FileTree}
    (h : (base64File dir).deliver stem json files = (.ok d, files')) :
    (base64File dir).Delivers stem json files d := by
  apply fileSink_proves ?_ h
  simp only [ofDataUri_toDataUri, beq_self_eq_true]

end Files

section Projects

variable {r : ProjectRecord} {now : Instant} {after : σ}

theorem exportProject_eq_ok_iff :
    exportProject sinks r now world = (.ok d, after) ↔
      deliverTo (ExportedProject.new r now).fileStem (ExportedProject.new r now).text sinks world =
        (.ok d, after) := by
  rw [exportProject]
  dsimp only
  generalize deliverTo (ExportedProject.new r now).fileStem (ExportedProject.new r now).text sinks
    world = outcome
  obtain ⟨result, reached⟩ := outcome
  cases result with
  | ok found => simp only [Prod.mk.injEq, Except.ok.injEq]
  | error reasons => simp only [Prod.mk.injEq, reduceCtorEq, false_and]

theorem exportProject_of_error {reasons : List String}
    (h : deliverTo (ExportedProject.new r now).fileStem (ExportedProject.new r now).text sinks world =
      (.error reasons, after)) :
    exportProject sinks r now world =
      (.error (.exportFailed (joinWith "; "
        (if reasons.isEmpty then ["no export targets configured"] else reasons))), after) := by
  rw [exportProject]
  dsimp only
  rw [h]

end Projects

end ExportSink

open ExportSink in
/-- An export succeeds exactly when some target, at its turn, delivers and its delivery proves right.
Then the first such delivery is the answer: up to that target each was asked once, in order, and
none behind it; and a file that it wrote holds the exported JSON, or its data URI. Otherwise each
target was asked once, in order, and the failure gives one reason for each, or the reason that there
are none. -/
theorem export_falls_back {σ : Type} (sinks : List (ExportSink σ)) (r : ProjectRecord)
    (now : Instant) (world : σ) :
    let stem := (ExportedProject.new r now).fileStem
    let json := (ExportedProject.new r now).text
    let reached := fun i => worldAfter stem json (sinks.take i) world
    let delivers := fun i d => ∃ sink, sinks[i]? = some sink ∧ sink.Delivers stem json (reached i) d
    ((∃ d, (exportProject sinks r now world).1 = .ok d) ↔ ∃ i d, delivers i d) ∧
    (∀ i d, delivers i d → (∀ j < i, ∀ other, ¬ delivers j other) →
      exportProject sinks r now world = (.ok d, reached (i + 1)) ∧
      exportProject (noted 0 sinks) r now (world, []) =
        (.ok d, reached (i + 1), List.range (i + 1)) ∧
      ∀ dir part replace, (∀ files world, part (replace files world) = files) →
        (sinks[i]? = some ((jsonFile dir).within part replace) →
          (part (reached (i + 1))).readText d.location = .ok json) ∧
        (sinks[i]? = some ((base64File dir).within part replace) →
          (part (reached (i + 1))).readText d.location = .ok (toDataUri json))) ∧
    ((∀ i d, ¬ delivers i d) →
      ∃ reasons,
        reasons = (if sinks.isEmpty then ["no export targets configured"]
          else sinks.mapIdx fun i sink => sink.reason stem json (reached i)) ∧
        exportProject sinks r now world =
          (.error (.exportFailed (joinWith "; " reasons)), reached sinks.length) ∧
        exportProject (noted 0 sinks) r now (world, []) =
          (.error (.exportFailed (joinWith "; " reasons)), reached sinks.length,
            List.range sinks.length)) := by
  intro stem json reached delivers
  have hsound {i d} (hd : delivers i d) (hfirst : ∀ j < i, ∀ other, ¬ delivers j other) :
      exportProject sinks r now world = (.ok d, reached (i + 1)) :=
    exportProject_eq_ok_iff.2 (deliverTo_first hd hfirst)
  have hrefused (hnone : ∀ i d, ¬ delivers i d) := exportProject_of_error (deliverTo_none hnone)
  refine ⟨⟨?_, ?_⟩, ?_, ?_⟩
  · rintro ⟨d, hd⟩
    by_contra hnot
    rw [hrefused fun i d hdelivers => hnot ⟨i, d, hdelivers⟩] at hd
    cases hd
  · intro hsome
    obtain ⟨i, d, hd, hfirst⟩ := exists_first hsome
    exact ⟨d, congrArg Prod.fst (hsound hd hfirst)⟩
  · intro i d hd hfirst
    have hnoted := exportProject_eq_ok_iff.2 (deliverTo_noted_first hd hfirst)
    refine ⟨hsound hd hfirst, hnoted, fun dir part replace hpart => ?_⟩
    obtain ⟨sink, hsink, hdelivers⟩ := hd
    have hreached : reached (i + 1) = (sink.deliver stem json (reached i)).2 :=
      worldAfter_take_succ hsink
    rw [hreached]
    constructor
    · intro hjson
      obtain rfl := Option.some.inj (hsink.symm.trans hjson)
      exact fileSink_delivers hpart hdelivers
    · intro huri
      obtain rfl := Option.some.inj (hsink.symm.trans huri)
      exact fileSink_delivers hpart hdelivers
  · intro hnone
    have hplain := hrefused hnone
    have hnoted := exportProject_of_error (deliverTo_noted_none hnone)
    have hempty (f : Nat → ExportSink σ → String) : (sinks.mapIdx f).isEmpty = sinks.isEmpty := by
      cases sinks with
      | nil => rfl
      | cons sink rest => rw [List.mapIdx_cons, List.isEmpty_cons, List.isEmpty_cons]
    have hreached : reached sinks.length = worldAfter stem json sinks world := by
      simp only [reached, List.take_length]
    rw [hempty] at hplain hnoted
    rw [hreached]
    exact ⟨_, rfl, hplain, hnoted⟩

section Targets

namespace ExportSink

/-- A target that refuses every backup. -/
def refusing (why : String) : ExportSink FileTree where
  name := "refusing"
  deliver _ _ files := (.error (.exportFailed why), files)
  verify _ _ _ := true

/-- A target that reports a delivery and writes nothing. -/
def silent : ExportSink FileTree where
  name := "silent"
  deliver stem json files := (.ok ⟨"silent", stem, json.utf8ByteSize⟩, files)
  verify _ _ _ := false

theorem not_delivers_of_refused {stem json : String} (j : Nat) (hj : j < 2) (rest) (d : Delivery) :
    ¬ DeliversAt stem json (refusing "disk on fire" :: silent :: rest) .empty j d := by
  rintro ⟨sink, hsink, hresult, hverify⟩
  match j with
  | 0 =>
    obtain rfl := Option.some.inj hsink
    cases hresult
  | 1 =>
    obtain rfl := Option.some.inj hsink
    cases hverify

end ExportSink

/-- A project without sections. -/
def emptyShop : ProjectRecord := .new "My Shop" .empty ⟨0, 0⟩

open ExportSink in
theorem export_falls_back_third :
    let stem := (ExportedProject.new emptyShop ⟨0, 0⟩).fileStem
    let json := (ExportedProject.new emptyShop ⟨0, 0⟩).text
    let failing := [refusing "disk on fire", silent]
    (∃ d, DeliversAt stem json (failing ++ [jsonFile "out"]) .empty 2 d ∧
      (∀ j < 2, ∀ other, ¬ DeliversAt stem json (failing ++ [jsonFile "out"]) .empty j other) ∧
      (exportProject (failing ++ [jsonFile "out"]) emptyShop ⟨0, 0⟩ .empty).1 = .ok d ∧
      (exportProject (failing ++ [jsonFile "out"]) emptyShop ⟨0, 0⟩ .empty).2.readText d.location =
        .ok json ∧
      (exportProject (noted 0 (failing ++ [jsonFile "out"])) emptyShop ⟨0, 0⟩ (.empty, [])).2.2 =
        [0, 1, 2]) ∧
    (∃ d, (exportProject [base64File "out"] emptyShop ⟨0, 0⟩ .empty).1 = .ok d ∧
      (exportProject [base64File "out"] emptyShop ⟨0, 0⟩ .empty).2.readText d.location =
        .ok (toDataUri json)) ∧
    (exportProject failing emptyShop ⟨0, 0⟩ .empty).1 = .error (.exportFailed
      "refusing: Export failed on every target: disk on fire; silent: written data did not verify") := by
  intro stem json failing
  have hjson (content : String) : ∃ d files, (jsonFile "out").deliver
      (ExportedProject.new emptyShop ⟨0, 0⟩).fileStem content .empty = (.ok d, files) := ⟨_, _, rfl⟩
  have huri (content : String) : ∃ d files, (base64File "out").deliver
      (ExportedProject.new emptyShop ⟨0, 0⟩).fileStem content .empty = (.ok d, files) := ⟨_, _, rfl⟩
  refine ⟨?_, ?_, ?_⟩
  · obtain ⟨d, files, hd⟩ := hjson json
    obtain ⟨-, hfirst, -⟩ :=
      export_falls_back (failing ++ [jsonFile "out"]) emptyShop ⟨0, 0⟩ FileTree.empty
    have hdelivers := jsonFile_delivers hd
    have hthird : DeliversAt stem json (failing ++ [jsonFile "out"]) .empty 2 d :=
      ⟨jsonFile "out", rfl, hdelivers⟩
    obtain ⟨hanswer, hcounted, hfiles⟩ := hfirst 2 d hthird fun j hj => not_delivers_of_refused j hj _
    refine ⟨d, hthird, fun j hj => not_delivers_of_refused j hj _, ?_, ?_, ?_⟩
    · rw [hanswer]
    · rw [hanswer]
      exact (hfiles "out" id (fun files _ => files) fun _ _ => rfl).1 rfl
    · rw [hcounted]
      rfl
  · obtain ⟨d, files, hd⟩ := huri json
    obtain ⟨-, hfirst, -⟩ := export_falls_back [base64File "out"] emptyShop ⟨0, 0⟩ FileTree.empty
    obtain ⟨hanswer, -, hfiles⟩ := hfirst 0 d ⟨base64File "out", rfl, base64File_delivers hd⟩
      fun j hj => absurd hj (Nat.not_lt_zero j)
    refine ⟨d, ?_, ?_⟩
    · rw [hanswer]
    · rw [hanswer]
      exact (hfiles "out" id (fun files _ => files) fun _ _ => rfl).2 rfl
  · obtain ⟨-, -, hnone⟩ := export_falls_back failing emptyShop ⟨0, 0⟩ FileTree.empty
    obtain ⟨reasons, hreasons, hanswer, -⟩ := hnone fun i d hd => by
      match i with
      | 0 => exact not_delivers_of_refused 0 (by decide) _ d hd
      | 1 => exact not_delivers_of_refused 1 (by decide) _ d hd
      | i + 2 =>
        obtain ⟨sink, hsink, -⟩ := hd
        cases hsink
    rw [hanswer, hreasons]
    rfl

end Targets

end PageBuilder
