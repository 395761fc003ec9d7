import PageBuilder.Proofs.Document.Records
import PageBuilder.Proofs.Store.DataUris
import PageBuilder.Proofs.Store.Fallback
import PageBuilder.Proofs.Workspace.Tasks

/-!
Backups read back. A backup holds the fields of a record and two more, as JSON or as the data URI
of it, and a project file the fields alone; either is imported as what is kept of the record, unless
it is too deep for a reader.
-/

namespace PageBuilder

section Texts

/-- A text without white space at its ends that does not look like a data URI is taken as it is. -/
theorem backupText_plain {s : String} (hfirst : ∀ c ∈ s.toList.head?, isBlank c = false)
    (hlast : ∀ c ∈ s.toList.getLast?, isBlank c = false) (hplain : startsWith s "data:" = false) :
    backupText s = .ok s := by
  have htrim : trim s = s := by rw [trim, trimChars_eq hfirst hlast, String.ofList_toList]
  unfold backupText
  simp only [htrim, hplain, Bool.false_eq_true, if_false]

/-- So is a text that is JSON of an object. -/
theorem backupText_pretty {members : List (String × Json)} (h : members ≠ []) :
    backupText (Json.obj members).pretty = .ok (Json.obj members).pretty := by
  have hchars := Json.pretty_obj h
  apply backupText_plain
  · rw [hchars]
    intro c hc
    obtain rfl := Option.some.inj hc
    decide
  · have hlast : (Json.obj members).pretty.toList.getLast? = some '\x7d' := by
      rw [hchars, List.getLast?_cons, Json.prettyMembers_getLast? 0 members]
      rfl
    rw [hlast]
    intro c hc
    obtain rfl := Option.some.inj hc
    decide
  · rw [startsWith, hchars]
    rfl

theorem backupText_toDataUri (s : String) : backupText (toDataUri s) = .ok s := by
  have htrim : trim (toDataUri s) = toDataUri s := by
    rw [trim, (toDataUri_unblank s).trim, String.ofList_toList]
  have huri : startsWith (toDataUri s) "data:" = true := by
    rw [startsWith, toDataUri_toList]
    rfl
  unfold backupText
  simp only [htrim, huri, if_true, ofDataUri_toDataUri]

end Texts

namespace ProjectRecord

/-- Reading a backup of a record gives what is kept of the record. Only a backup that opens more
lists and objects inside each other than a reader takes is refused. -/
def RestoredBy (r : ProjectRecord) (result : Except ImportError ProjectRecord) : Prop :=
  (r.stripped.toJson.levels ≤ Json.maxNesting →
    ∃ q, result = .ok q ∧ q.same r.stripped = true ∧ q.extra = .empty) ∧
  (Json.maxNesting < r.stripped.toJson.levels → result = .error .malformedJson)

variable {r : ProjectRecord} {more : List (String × Json)}

theorem importProject_like (h : r.ReadsBack) (hid : (trim r.id).isEmpty = false)
    (hmore : ∀ m ∈ more, m.1 ∉ fieldNames) {now : Instant} {text json : String} {j : Json}
    (htext : backupText text = .ok json) (hj : Json.parse? json = some j)
    (hlike : j.Like (.obj (r.toMembers ++ more))) :
    ∃ q, importProject now text = .ok q ∧ q.same r.stripped = true ∧ q.extra = .empty := by
  obtain ⟨q, hq, hsame, -⟩ := ofJson?_like now h hmore hlike
  obtain ⟨members, rfl, -, -, hmembers⟩ := hlike
  have hfind := Json.likeMembers_iff.1 hmembers
  obtain ⟨name, hname, rfl⟩ : ∃ x, members.lookup "name" = some x ∧ x = .str r.name :=
    hfind "name" (.str r.name) (List.mem_append_left more (by simp [toMembers]))
  obtain ⟨sections, hsections, fields, rfl, -⟩ :=
    hfind "sections" r.sections.toJson (List.mem_append_left more (by simp [toMembers]))
  -- the importer keeps an id that is not blank
  have hkept : (trim q.id).isEmpty = false := by
    have hqid : q.id = r.id := by
      simp only [same, Bool.and_eq_true, beq_iff_eq, and_assoc] at hsame
      exact hsame.1
    rw [hqid, hid]
  refine ⟨q.stripped, ?_, hsame, rfl⟩
  rw [importProject, htext]
  simp only [bind, Except.bind, hj, Json.members?, hname, hsections, hq, hkept, Bool.false_eq_true,
    if_false]
  rfl

theorem distinctKeys_append (hmore : DistinctKeys more) (hother : ∀ m ∈ more, m.1 ∉ fieldNames) :
    DistinctKeys (r.toMembers ++ more) := by
  rw [DistinctKeys, List.map_append, List.nodup_append]
  refine ⟨r.toMembers_distinct, hmore, ?_⟩
  rintro key hkey _ hin rfl
  obtain ⟨m, hm, rfl⟩ := List.mem_map.1 hkey
  obtain ⟨other, hthere, heq⟩ := List.mem_map.1 hin
  apply hother other hthere
  rw [heq]
  exact r.toMembers_keys m hm

theorem restoredBy_importProject (h : r.ReadsBack) (hid : (trim r.id).isEmpty = false)
    (hmore : DistinctKeys more) (hother : ∀ m ∈ more, m.1 ∉ fieldNames)
    (hvalues : ∀ m ∈ more, m.2.Writable) (hflat : Json.membersLevels more = 0) {text : String}
    (htext : backupText text = .ok (Json.obj (r.toMembers ++ more)).pretty) (now : Instant) :
    r.RestoredBy (importProject now text) := by
  have hwritable : (Json.obj (r.toMembers ++ more)).Writable := by
    refine ⟨distinctKeys_append hmore hother, Json.membersThroughout_iff.2 ?_⟩
    exact List.forall_mem_append.2 ⟨toMembers_writable h, hvalues⟩
  have hlevels : (Json.obj (r.toMembers ++ more)).levels = r.stripped.toJson.levels := by
    have hstripped : r.stripped.toJson = .obj (r.toMembers ++ []) := toJson_eq rfl
    rw [hstripped, List.append_nil, Json.levels, Json.levels, Json.membersLevels_append, hflat,
      Nat.max_zero]
  obtain ⟨j, hsame, hread⟩ :=
    Json.readOutlined?_pretty (Json.Outline.whole_covers _) hwritable
  rw [hlevels] at hread
  constructor
  · intro hshallow
    rw [if_pos hshallow] at hread
    have hparse : Json.parse? (Json.obj (r.toMembers ++ more)).pretty = some j.canonical := by
      rw [Json.parse?, Json.read?, hread, Option.map_some]
    -- the importer reads the canonical value, whose members come in another order
    have hlike := (Json.like_of_same j _ hsame hwritable).canonical
    exact importProject_like h hid hother htext hparse hlike
  · intro hdeep
    rw [if_neg (Nat.not_le.2 hdeep)] at hread
    have hparse : Json.parse? (Json.obj (r.toMembers ++ more)).pretty = none := by
      rw [Json.parse?, Json.read?, hread, Option.map_none]
    rw [importProject, htext]
    simp only [bind, Except.bind, hparse]
    rfl

theorem toMembers_ne_nil (r : ProjectRecord) : r.toMembers ++ more ≠ [] := by
  rw [toMembers]
  exact List.cons_ne_nil _ _

/-- What a backup holds besides the fields of a record. -/
def exportFields (exportedAt : Instant) : List (String × Json) :=
  [("exportedAt", exportedAt.toJson), ("exportVersion", .str "1.0")]

theorem exportText_eq (r : ProjectRecord) (exportedAt : Instant) :
    (ExportedProject.new r exportedAt).text =
      (Json.obj (r.toMembers ++ exportFields exportedAt)).pretty := by
  have hmembers : (ExportedProject.new r exportedAt).toJson =
      .obj (r.toMembers ++ [] ++ exportFields exportedAt) := rfl
  rw [ExportedProject.text, hmembers, List.append_nil]

theorem restoredBy_export (h : r.ReadsBack) (hid : (trim r.id).isEmpty = false)
    {exportedAt : Instant} {text : String}
    (htext : backupText text = .ok (ExportedProject.new r exportedAt).text) (now : Instant) :
    r.RestoredBy (importProject now text) := by
  rw [exportText_eq] at htext
  have hkeys : (exportFields exportedAt).map Prod.fst = ExportedProject.fieldNames := rfl
  have hdistinct : DistinctKeys (exportFields exportedAt) := by
    rw [DistinctKeys, hkeys]
    decide
  have hother : ∀ m ∈ exportFields exportedAt, m.1 ∉ fieldNames := by
    intro m hm
    have hkey : m.1 ∈ ExportedProject.fieldNames := hkeys ▸ List.mem_map_of_mem hm
    have hall : ∀ key ∈ ExportedProject.fieldNames, key ∉ fieldNames := by decide
    exact hall m.1 hkey
  have hvalues : ∀ m ∈ exportFields exportedAt, m.2.Writable := by
    intro m hm
    simp only [exportFields, List.mem_cons, List.not_mem_nil, or_false] at hm
    rcases hm with rfl | rfl
    · trivial
    · trivial
  have hflat : Json.membersLevels (exportFields exportedAt) = 0 := rfl
  exact restoredBy_importProject h hid hdistinct hother hvalues hflat htext now

theorem restoredBy_fileText (h : r.ReadsBack) (hid : (trim r.id).isEmpty = false) (now : Instant) :
    r.RestoredBy (importProject now r.fileText) := by
  have hjson : r.stripped.toJson = .obj (r.toMembers ++ []) := toJson_eq rfl
  have htext : backupText r.fileText = .ok (Json.obj (r.toMembers ++ [])).pretty := by
    rw [fileText, hjson]
    exact backupText_pretty r.toMembers_ne_nil
  have hdistinct : DistinctKeys ([] : List (String × Json)) := List.nodup_nil
  exact restoredBy_importProject h hid hdistinct (List.forall_mem_nil _) (List.forall_mem_nil _)
    rfl htext now

end ProjectRecord

/-- What stands in a file gives a record back. -/
def FileTree.HoldsBackup (t : FileTree) (path : String) (r : ProjectRecord) : Prop :=
  ∃ text, t.readText path = .ok text ∧ ∀ now, r.RestoredBy (importProject now text)

namespace ExportSink

theorem directory_holdsBackup {r : ProjectRecord} (h : r.ReadsBack)
    (hid : (trim r.id).isEmpty = false) {exportedAt : Instant} {dir stem : String}
    {sink : ExportSink FileTree} (hsink : sink ∈ directory dir) {files files' : FileTree}
    {d : Delivery} (hd : sink.deliver stem (ExportedProject.new r exportedAt).text files =
      (.ok d, files')) : files'.HoldsBackup d.location r := by
  have hcases : sink = jsonFile dir ∨ sink = base64File dir := by simpa [directory] using hsink
  rcases hcases with rfl | rfl
  · have hjson : backupText (ExportedProject.new r exportedAt).text =
        .ok (ExportedProject.new r exportedAt).text := by
      rw [ProjectRecord.exportText_eq]
      exact backupText_pretty r.toMembers_ne_nil
    exact ⟨_, fileSink_written hd, ProjectRecord.restoredBy_export h hid hjson⟩
  · have huri := backupText_toDataUri (ExportedProject.new r exportedAt).text
    exact ⟨_, fileSink_written hd, ProjectRecord.restoredBy_export h hid huri⟩

/-- An export to a directory ends with the JSON file, if that can be written. -/
theorem exportProject_directory {dir : String} {r : ProjectRecord} {exportedAt : Instant}
    {files files' : FileTree} {d : Delivery}
    (h : (jsonFile dir).deliver (ExportedProject.new r exportedAt).fileStem
      (ExportedProject.new r exportedAt).text files = (.ok d, files')) :
    exportProject (directory dir) r exportedAt files = (.ok d, files') := by
  rw [exportProject_eq_ok_iff, directory, deliverTo_cons_of_delivers (jsonFile_delivers h), h]

theorem exportProject_ok {σ : Type} {sinks : List (ExportSink σ)} {r : ProjectRecord}
    {exportedAt : Instant} {world world' : σ} {d : Delivery}
    (h : exportProject sinks r exportedAt world = (.ok d, world')) :
    ∃ sink ∈ sinks, ∃ before, sink.deliver (ExportedProject.new r exportedAt).fileStem
      (ExportedProject.new r exportedAt).text before = (.ok d, world') :=
  deliverTo_ok (exportProject_eq_ok_iff.1 h)

end ExportSink

/-- A record whose numbers and times read back is given back by every backup of it: by the files of
an export, whichever target took it, and by a project file. -/
theorem ProjectRecord.backups_read_back (r : ProjectRecord) (h : r.ReadsBack)
    (hid : (trim r.id).isEmpty = false) :
    (∀ (exportedAt : Instant) (dir stem : String), ∀ sink ∈ ExportSink.directory dir,
      ∀ (files files' : FileTree) (d : Delivery),
        sink.deliver stem (ExportedProject.new r exportedAt).text files = (.ok d, files') →
          files'.HoldsBackup d.location r) ∧
    (∀ (exportedAt : Instant) (dir : String) (files files' : FileTree) (d : Delivery),
      exportProject (ExportSink.directory dir) r exportedAt files = (.ok d, files') →
        files'.HoldsBackup d.location r) ∧
    (∀ (env : Environment) (path : String) (console console' : Console),
      Task.writeProject path r console = (.ok (), console') →
        ∃ result, r.RestoredBy result ∧
          Task.readProject env path console' =
            (result.mapError (.noProjectAt path), console')) := by
  refine ⟨?_, ?_, ?_⟩
  · intro exportedAt dir stem sink hsink files files' d hd
    exact ExportSink.directory_holdsBackup h hid hsink hd
  · intro exportedAt dir files files' d hexport
    obtain ⟨sink, hsink, before, hd⟩ := ExportSink.exportProject_ok hexport
    exact ExportSink.directory_holdsBackup h hid hsink hd
  · intro env path console console' hwrite
    exact ⟨_, restoredBy_fileText h hid env.now, Task.readProject_writeProject env hwrite⟩

section Shop

/-- An element with numbers of every kind. -/
def banner : Element :=
  .mk ⟨"banner", .container, .ofList [("level", .num (.int 2))],
    .ofList [("opacity", .num (.float 0.1))], ⟨-0.0, 1.5⟩, ⟨.px 12.5, .auto⟩⟩ []

/-- A project with a banner and, below it, boxes inside each other. -/
def shop (depth : Nat) : ProjectRecord where
  id := "p-1"
  name := "My Shop"
  description := "Summer"
  tags := ["sale"]
  sections := .ofList [("home", ⟨"home", "Home", "home", true, [banner, boxes depth]⟩)]
  createdAt := ⟨0, 0⟩
  updatedAt := ⟨1700000000, 500000000⟩
  version := 3
  thumbnail := some "t"
  extra := .ofList [("editor", .str "open")]

theorem banner_readsBack : banner.ReadsBack := by
  have hnode : Node.ReadsBack banner.node := by
    refine ⟨?_, ?_, ?_, ?_⟩
    · intro e he
      obtain rfl := List.mem_singleton.1 (SortedMap.mem_of_mem_ofList he)
      exact ⟨_, rfl, by decide⟩
    · intro e he
      obtain rfl := List.mem_singleton.1 (SortedMap.mem_of_mem_ofList he)
      exact ⟨_, rfl, by decide⟩
    · exact ⟨⟨_, rfl, by decide⟩, ⟨_, rfl, by decide⟩⟩
    · exact ⟨⟨by decide, _, rfl, by decide⟩, trivial⟩
  have hnone : Forest.ReadsBack [] := nofun
  exact Forest.readsBack_cons.2 ⟨hnode, hnone, hnone⟩

theorem shop_readsBack (depth : Nat) : (shop depth).ReadsBack := by
  have hcreated : (Instant.mk 0 0).ReadsBack := rfl
  have hupdated : (Instant.mk 1700000000 500000000).ReadsBack := by
    unfold Instant.ReadsBack
    decide +kernel
  have hversion : 3 < wordLimit := by decide
  refine ⟨?_, hcreated, hupdated, hversion⟩
  intro e he
  obtain rfl := List.mem_singleton.1 (SortedMap.mem_of_mem_ofList he)
  have hnone : Forest.ReadsBack [] := nofun
  obtain ⟨hbanner, hbelow, -⟩ := Forest.readsBack_cons.1 banner_readsBack
  exact Forest.readsBack_cons.2 ⟨hbanner, hbelow, boxes_readsBack depth⟩

theorem shop_levels (depth : Nat) : (shop depth).stripped.toJson.levels = 2 * depth + 6 := by
  have hbanner : banner.toJson.levels = 2 := by decide
  have hstripped : (shop depth).stripped.toJson = .obj ((shop depth).toMembers ++ []) := rfl
  have hsections : (shop depth).sections.entries =
      [("home", ⟨"home", "Home", "home", true, [banner, boxes depth]⟩)] := rfl
  have htags : (Json.strings (shop depth).tags).levels = 1 := rfl
  have hthumb : (shop depth).thumbnail = some "t" := rfl
  rw [hstripped, List.append_nil]
  simp only [ProjectRecord.toMembers, htags, hthumb, Sections.toJson_eq, hsections,
    List.cons_append, List.nil_append, List.map_cons, List.map_nil, Section.toJson, Forest.toJson,
    Forest.toJsonItems, Json.levels, Json.membersLevels, Json.itemsLevels, boxes_levels, hbanner,
    Instant.toJson, Json.nat]
  omega

theorem ProjectRecord.backups_read_back_shop :
    (shop 1).ReadsBack ∧ (trim (shop 1).id).isEmpty = false ∧
      (shop 1).stripped.toJson.levels ≤ Json.maxNesting ∧
      (∃ d files, (ExportSink.base64File "out").deliver "shop"
          (ExportedProject.new (shop 1) ⟨0, 0⟩).text .empty = (.ok d, files) ∧
        files.HoldsBackup d.location (shop 1)) ∧
      (∃ d files, exportProject (ExportSink.directory "out") (shop 1) ⟨0, 0⟩ .empty =
          (.ok d, files) ∧
        files.HoldsBackup d.location (shop 1)) ∧
      (∀ env, ∃ console q, Task.writeProject "shop.page.json" (shop 1) ⟨.empty, "", ""⟩ =
          (.ok (), console) ∧
        Task.readProject env "shop.page.json" console = (.ok q, console) ∧
        q.same (shop 1).stripped = true ∧ q.extra = .empty) := by
  have hback := shop_readsBack 1
  have hid : (trim (shop 1).id).isEmpty = false := by decide
  have hlevels : (shop 1).stripped.toJson.levels ≤ Json.maxNesting := by
    rw [shop_levels]
    decide
  obtain ⟨hsinks, hexports, hfiles⟩ := backups_read_back (shop 1) hback hid
  refine ⟨hback, hid, hlevels, ?_, ?_, fun env => ?_⟩
  · have hwritten (content : String) : ∃ d files,
        (ExportSink.base64File "out").deliver "shop" content .empty = (.ok d, files) := ⟨_, _, rfl⟩
    obtain ⟨d, files, hd⟩ := hwritten (ExportedProject.new (shop 1) ⟨0, 0⟩).text
    have hsink : ExportSink.base64File "out" ∈ ExportSink.directory "out" :=
      List.mem_cons_of_mem _ (List.mem_singleton_self _)
    exact ⟨d, files, hd, hsinks ⟨0, 0⟩ "out" "shop" _ hsink _ files d hd⟩
  · have hwritten (content : String) : ∃ d files, (ExportSink.jsonFile "out").deliver
        (ExportedProject.new (shop 1) ⟨0, 0⟩).fileStem content .empty = (.ok d, files) :=
      ⟨_, _, rfl⟩
    obtain ⟨d, files, hd⟩ := hwritten (ExportedProject.new (shop 1) ⟨0, 0⟩).text
    have hexport := ExportSink.exportProject_directory hd
    exact ⟨d, files, hexport, hexports ⟨0, 0⟩ "out" _ files d hexport⟩
  · have hwritten (r : ProjectRecord) : ∃ console,
        Task.writeProject "shop.page.json" r ⟨.empty, "", ""⟩ = (.ok (), console) := ⟨_, rfl⟩
    obtain ⟨console, hwrite⟩ := hwritten (shop 1)
    obtain ⟨result, hresult, hread⟩ := hfiles env "shop.page.json" _ console hwrite
    obtain ⟨q, rfl, hsame, hextra⟩ := hresult.1 hlevels
    exact ⟨console, q, hwrite, hread, hsame, hextra⟩

/-- The backup of sixty-two boxes inside each other is refused. -/
theorem deep_backup_refused :
    (shop 61).ReadsBack ∧ (trim (shop 61).id).isEmpty = false ∧
      ∃ d files text, (ExportSink.jsonFile "out").deliver "shop"
          (ExportedProject.new (shop 61) ⟨0, 0⟩).text .empty = (.ok d, files) ∧
        files.readText d.location = .ok text ∧
        ∀ now, importProject now text = .error .malformedJson := by
  have hid : (trim (shop 61).id).isEmpty = false := by decide
  have hdeep : Json.maxNesting < (shop 61).stripped.toJson.levels := by
    rw [shop_levels]
    decide
  have hwritten (content : String) : ∃ d files,
      (ExportSink.jsonFile "out").deliver "shop" content .empty = (.ok d, files) := ⟨_, _, rfl⟩
  obtain ⟨d, files, hd⟩ := hwritten (ExportedProject.new (shop 61) ⟨0, 0⟩).text
  obtain ⟨text, htext, hrestored⟩ :=
    ExportSink.directory_holdsBackup (shop_readsBack 61) hid (List.mem_cons_self ..) hd
  exact ⟨shop_readsBack 61, hid, d, files, text, hd, htext, fun now => (hrestored now).2 hdeep⟩

end Shop

end PageBuilder
