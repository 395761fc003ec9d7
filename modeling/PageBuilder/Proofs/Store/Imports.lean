import PageBuilder.Proofs.Json.OneLine
import PageBuilder.Proofs.Store.Backups

/-!
The two forms of a backup. A plain text and the data URI of it are imported alike, and a file with a
data URI proves right exactly when it is read as the backup.
-/

namespace PageBuilder

theorem ExportSink.base64File_verify_iff {dir json : String} {d : Delivery} {files : FileTree} :
    (base64File dir).verify d json files = true ↔
      ∃ written, files.readText d.location = .ok written ∧ ofDataUri written = .ok json := by
  simp only [base64File, fileSink]
  cases hread : files.readText d.location with
  | error e => simp
  | ok written =>
    cases huri : ofDataUri written with
    | error e => simp [huri]
    | ok decoded => simp [huri]

/-- A text without white space at its ends that does not look like a data URI is imported like its
data URI: both give the importer the same text, and so the same record or the same reason. The data
URI of every text is read as the text, and whatever is read as a text holds what is written in base64
for the bytes of it. So a file that still holds what was delivered proves right, and one that is read
as another text, or as none, does not. -/
theorem import_formats_agree :
    (∀ (now : Instant) (s : String), (∀ c ∈ s.toList.head?, isBlank c = false) →
      (∀ c ∈ s.toList.getLast?, isBlank c = false) → startsWith s "data:" = false →
      backupText s = .ok s ∧ backupText (toDataUri s) = .ok s ∧
        importProject now (toDataUri s) = importProject now s) ∧
    (∀ s, ofDataUri (toDataUri s) = .ok s) ∧
    (∀ uri s, ofDataUri uri = .ok s ↔
      ∃ head payload, (trim uri).toList = head ++ ',' :: payload ∧ ',' ∉ head ∧
        startsWith (String.ofList head) "data:" = true ∧
        endsWith (String.ofList head) ";base64" = true ∧
        trimChars payload = base64Encode s.toUTF8.toList) ∧
    (∀ dir stem json files d delivered,
      (ExportSink.base64File dir).deliver stem json files = (.ok d, delivered) →
      ∀ later : FileTree, later.readText d.location = delivered.readText d.location →
        (ExportSink.base64File dir).verify d json later = true) ∧
    (∀ dir json d files, (ExportSink.base64File dir).verify d json files = true ↔
      ∃ written, files.readText d.location = .ok written ∧ ofDataUri written = .ok json) := by
  refine ⟨?_, ofDataUri_toDataUri, fun uri s => ofDataUri_eq_ok_iff, ?_,
    fun dir json d files => ExportSink.base64File_verify_iff⟩
  · intro now s hfirst hlast hplain
    have htext := backupText_plain hfirst hlast hplain
    have huri := backupText_toDataUri s
    refine ⟨htext, huri, ?_⟩
    rw [importProject, importProject, htext, huri]
  · intro dir stem json files d delivered hdelivered later hlater
    rw [ExportSink.base64File_verify_iff, hlater]
    exact ⟨toDataUri json, ExportSink.fileSink_written hdelivered, ofDataUri_toDataUri json⟩

/-- A compact object has no white space around it and is no data URI. -/
theorem compactObject_plain (members : List (String × Json)) :
    let s := (Json.obj members).compact
    (∀ c ∈ s.toList.head?, isBlank c = false) ∧ (∀ c ∈ s.toList.getLast?, isBlank c = false) ∧
      startsWith s "data:" = false := by
  obtain ⟨inner, hinner⟩ := Json.obj_chars members
  have hends : ((Json.obj members).chars).getLast? = some '\x7d' := by
    rw [hinner, ← List.cons_append, List.getLast?_concat]
  dsimp only
  rw [Json.compact, startsWith_ofList, String.toList_ofList, hends, hinner, List.head?_cons]
  refine ⟨?_, ?_, rfl⟩
  · rintro c ⟨⟩
    decide
  · rintro c ⟨⟩
    decide

/-- A backup named in three scripts. -/
def cafeBackup (more : List (String × Json)) : String :=
  (Json.obj (("name", .str "Café Žižkov 咖啡") :: more)).compact

/-- With sections the backup is imported in both forms, and without them it is refused in both. What
was delivered for the one does not prove right for the other. -/
theorem import_formats_agree_cafe :
    let now : Instant := ⟨0, 0⟩
    let kept := cafeBackup [("sections", .obj [])]
    let refused := cafeBackup []
    (∀ s ∈ [kept, refused], (∀ c ∈ s.toList.head?, isBlank c = false) ∧
      (∀ c ∈ s.toList.getLast?, isBlank c = false) ∧ startsWith s "data:" = false) ∧
    (∃ r, importProject now kept = .ok r ∧ importProject now (toDataUri kept) = .ok r ∧
      r.name = "Café Žižkov 咖啡") ∧
    importProject now refused = .error .noSections ∧
    importProject now (toDataUri refused) = .error .noSections ∧
    ∃ d delivered,
      (ExportSink.base64File "out").deliver "shop" kept .empty = (.ok d, delivered) ∧
      (ExportSink.base64File "out").verify d kept delivered = true ∧
      (ExportSink.base64File "out").verify d refused delivered = false := by
  intro now kept refused
  have hplain : ∀ s ∈ [kept, refused], (∀ c ∈ s.toList.head?, isBlank c = false) ∧
      (∀ c ∈ s.toList.getLast?, isBlank c = false) ∧ startsWith s "data:" = false := by
    intro s hs
    rcases List.mem_pair.1 hs with rfl | rfl <;> exact compactObject_plain _
  obtain ⟨hagree, -, -, hverify, hverified⟩ := import_formats_agree
  have hsame : ∀ s ∈ [kept, refused], importProject now (toDataUri s) = importProject now s := by
    intro s hs
    obtain ⟨hfirst, hlast, hdata⟩ := hplain s hs
    exact (hagree now s hfirst hlast hdata).2.2
  obtain ⟨r, hr, hname⟩ := ok_of_any (r := importProject now kept)
    (p := fun r => r.name == "Café Žižkov 咖啡") (by decide +kernel)
  have hrefused : importProject now refused = .error .noSections := by
    have hreason : (importProject now refused).map (fun _ => ()) = .error .noSections := by
      decide +kernel
    cases himport : importProject now refused with
    | error e =>
      rw [himport] at hreason
      exact congrArg Except.error (Except.error.inj hreason)
    | ok r =>
      rw [himport] at hreason
      cases hreason
  refine ⟨hplain, ⟨r, hr, ?_, eq_of_beq hname⟩, hrefused, ?_, ?_⟩
  · rw [hsame kept (List.mem_cons_self ..), hr]
  · rw [hsame refused (List.mem_pair.2 (Or.inr rfl)), hrefused]
  · obtain ⟨d, delivered, hdelivered⟩ : ∃ d delivered,
        (ExportSink.base64File "out").deliver "shop" kept .empty = (.ok d, delivered) := ⟨_, _, rfl⟩
    refine ⟨d, delivered, hdelivered,
      hverify "out" "shop" kept .empty d delivered hdelivered delivered rfl, ?_⟩
    refine Bool.eq_false_iff.2 fun hother => ?_
    obtain ⟨written, hread, huri⟩ := (hverified "out" refused d delivered).1 hother
    have hwritten := ExportSink.fileSink_written hdelivered
    obtain rfl := Except.ok.inj (hread.symm.trans hwritten)
    rw [ofDataUri_toDataUri] at huri
    exact absurd (Except.ok.inj huri) (by decide +kernel)

end PageBuilder
