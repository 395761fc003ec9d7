import PageBuilder.Proofs.Json.Alike
import PageBuilder.Proofs.Json.OneLine
import PageBuilder.Proofs.Text.Cut
import PageBuilder.Proofs.Text.Trim
import PageBuilder.Proofs.Workspace.Apply

/-!
The two forms of a script. A list of objects in compact JSON and the objects one to a line, with
blank lines, comments and white space between them, have the same payloads: printed JSON has no line
breaks and is read as what was printed.
-/

namespace PageBuilder

section Lines

/-- The payloads in the lines of a text. -/
def linePayloads (cs : List Char) : List String :=
  ((splitOnChar '\n' cs).map fun line => String.ofList (trimChars line)).filter
    fun line => !isScriptComment line

theorem trimChars_withoutReturn (line : List Char) :
    trimChars (withoutReturn line) = trimChars line := by
  unfold withoutReturn
  split
  · next hreturn =>
    have hblank : Blanks ['\r'] := List.forall_mem_singleton.2 (by decide)
    have hline := hblank.append_trim line.dropLast
    rw [List.dropLast_append_getLast? '\r' hreturn] at hline
    exact hline.symm
  · rfl

/-- How a line ends makes no difference to its payload. -/
theorem linePayloads_toList (s : String) :
    ((lines s).map trim).filter (fun line => !isScriptComment line) = linePayloads s.toList := by
  obtain ⟨ended, last, hparts⟩ : ∃ ended last, splitOnChar '\n' s.toList = ended ++ [last] :=
    ⟨_, _, (List.dropLast_concat_getLast (splitOnChar_ne_nil '\n' s.toList)).symm⟩
  have htrim (line : List Char) : trim (String.ofList line) = String.ofList (trimChars line) := by
    rw [trim, String.toList_ofList]
  have hended : ((ended.map withoutReturn).map String.ofList).map trim =
      ended.map fun line => String.ofList (trimChars line) := by
    rw [List.map_map, List.map_map]
    refine List.map_congr_left fun line _ => ?_
    rw [Function.comp_apply, Function.comp_apply, htrim, trimChars_withoutReturn]
  unfold lines linePayloads
  dsimp only
  rw [hparts, List.dropLast_concat, List.getLast?_concat, Option.getD_some]
  split
  · next hempty =>
    -- behind the last line break there is no line, but there would be no payload in it, either
    obtain rfl := List.isEmpty_iff.1 hempty
    rw [hended, List.map_append, List.filter_append]
    exact (List.append_nil _).symm
  · rw [List.map_append, List.map_append, hended, List.map_append, List.map_singleton,
      List.map_singleton, List.map_singleton, htrim]

theorem linePayloads_append (cs rest : List Char) :
    linePayloads (cs ++ '\n' :: rest) = linePayloads cs ++ linePayloads rest := by
  unfold linePayloads
  rw [splitOnChar_append, List.map_append, List.filter_append]

theorem linePayloads_nil : linePayloads [] = [] := rfl

theorem linePayloads_line {cs : List Char} (h : '\n' ∉ cs) :
    linePayloads cs = if isScriptComment (String.ofList (trimChars cs)) then []
      else [String.ofList (trimChars cs)] := by
  unfold linePayloads
  rw [splitOnChar_of_not_mem h, List.map_singleton, List.filter_singleton]
  cases isScriptComment (String.ofList (trimChars cs)) <;> rfl

theorem linePayloads_of_trim {cs ds : List Char} (hcs : '\n' ∉ cs) (hds : '\n' ∉ ds)
    (h : trimChars cs = trimChars ds) : linePayloads cs = linePayloads ds := by
  rw [linePayloads_line hcs, linePayloads_line hds, h]

theorem linePayloads_cons_blank {c : Char} (hc : isBlank c = true) (cs : List Char) :
    linePayloads (c :: cs) = linePayloads cs := by
  by_cases hbreak : c = '\n'
  · subst hbreak
    rw [← List.nil_append ('\n' :: cs), linePayloads_append, linePayloads_nil, List.nil_append]
  · have hline {part : List Char} (hpart : '\n' ∉ part) :
        linePayloads (c :: part) = linePayloads part := by
      have hlonger : '\n' ∉ c :: part := by
        rw [List.mem_cons, not_or]
        exact ⟨Ne.symm hbreak, hpart⟩
      exact linePayloads_of_trim hlonger hpart (trimChars_cons_blank hc part)
    -- the white space belongs to the first line
    induction cs using parts_induction '\n' with
    | last part hpart => exact hline hpart
    | before part rest hpart _ =>
      rw [← List.cons_append, linePayloads_append, linePayloads_append, hline hpart]

theorem linePayloads_concat_blank {c : Char} (hc : isBlank c = true) (cs : List Char) :
    linePayloads (cs ++ [c]) = linePayloads cs := by
  by_cases hbreak : c = '\n'
  · subst hbreak
    rw [linePayloads_append, linePayloads_nil, List.append_nil]
  · have hblank : Blanks [c] := List.forall_mem_singleton.2 hc
    -- the white space belongs to the last line, which the induction comes to
    induction cs using parts_induction '\n' with
    | last part hpart =>
      have hlonger : '\n' ∉ part ++ [c] := by
        rw [List.mem_append, List.mem_singleton, not_or]
        exact ⟨hpart, Ne.symm hbreak⟩
      exact linePayloads_of_trim hlonger hpart (hblank.append_trim part)
    | before part rest _ ih =>
      rw [List.append_assoc, List.cons_append, linePayloads_append, linePayloads_append, ih]

/-- White space around a script holds no payloads. -/
theorem linePayloads_trimChars (cs : List Char) :
    linePayloads (trimChars cs) = linePayloads cs := by
  have hfront {ws : List Char} (hws : Blanks ws) (cs : List Char) :
      linePayloads (ws ++ cs) = linePayloads cs := by
    induction ws with
    | nil => rfl
    | cons w ws ih =>
      obtain ⟨hw, hrest⟩ := List.forall_mem_cons.1 hws
      rw [List.cons_append, linePayloads_cons_blank hw, ih hrest]
  have hback {ws : List Char} (hws : Blanks ws) (cs : List Char) :
      linePayloads (cs ++ ws) = linePayloads cs := by
    induction ws generalizing cs with
    | nil => rw [List.append_nil]
    | cons w ws ih =>
      obtain ⟨hw, hrest⟩ := List.forall_mem_cons.1 hws
      rw [List.append_cons, ih hrest, linePayloads_concat_blank hw]
  obtain ⟨front, back, hbefore, hbehind, hcs⟩ := trimChars_between cs
  conv_rhs => rw [hcs, hfront hbefore, hback hbehind]

/-- A script that does not start with a bracket has the payloads of its lines. -/
theorem scriptPayloads?_of_lines {s : String} (h : startsWith (trim s) "[" = false) :
    scriptPayloads? s = some (linePayloads s.toList) := by
  unfold scriptPayloads?
  dsimp only
  rw [h, if_neg Bool.false_ne_true, linePayloads_toList, trim, String.toList_ofList,
    linePayloads_trimChars]

theorem linePayloads_joinWith (parts : List String) :
    linePayloads (joinWith "\n" parts).toList = parts.flatMap fun s => linePayloads s.toList := by
  induction parts with
  | nil => rfl
  | cons s rest ih =>
    by_cases hrest : rest = []
    · subst hrest
      exact (List.append_nil _).symm
    · rw [joinWith_cons "\n" s hrest, String.toList_append, String.toList_append, List.append_assoc,
        List.flatMap_cons, ← ih]
      exact linePayloads_append _ _

end Lines

section Layout

/-- White space within a line. A carriage return at the end of a line is white space, too. -/
def LineBlanks (s : String) : Prop := ∀ c ∈ s.toList, isBlank c = true ∧ c ≠ '\n'

theorem lineBlanks_of_all {s : String}
    (h : s.toList.all (fun c => isBlank c && decide (c ≠ '\n')) = true) : LineBlanks s := by
  intro c hc
  have hboth := List.all_eq_true.1 h c hc
  rw [Bool.and_eq_true, decide_eq_true_eq] at hboth
  exact hboth

theorem LineBlanks.blanks {s : String} (h : LineBlanks s) : Blanks s.toList :=
  fun c hc => (h c hc).1

theorem LineBlanks.not_mem {s : String} (h : LineBlanks s) : '\n' ∉ s.toList :=
  fun hmem => (h _ hmem).2 rfl

/-- The objects that the lines of a script hold, in their order: compact and with white space around
them. The other lines are blank or comments. -/
inductive ScriptLines : List Json → List String → Prop
  | none : ScriptLines [] []
  | object {objects : List Json} {lines : List String} {front back : String}
      (members : List (String × Json)) (hfront : LineBlanks front) (hback : LineBlanks back)
      (rest : ScriptLines objects lines) :
      ScriptLines (.obj members :: objects)
        ((front ++ (Json.obj members).compact ++ back) :: lines)
  | blank {objects : List Json} {lines : List String} {line : String} (hline : LineBlanks line)
      (rest : ScriptLines objects lines) : ScriptLines objects (line :: lines)
  | comment {objects : List Json} {lines : List String} {front text : String}
      (hfront : LineBlanks front) (htext : '\n' ∉ text.toList)
      (rest : ScriptLines objects lines) : ScriptLines objects ((front ++ "//" ++ text) :: lines)

theorem linePayloads_object {front back : String} (members : List (String × Json))
    (hfront : LineBlanks front) (hback : LineBlanks back) :
    linePayloads (front ++ (Json.obj members).compact ++ back).toList =
      [(Json.obj members).compact] := by
  obtain ⟨inner, hinner⟩ := Json.obj_chars members
  have hbreak : '\n' ∉ (Json.obj members).chars := by
    intro hmem
    exact absurd (Json.uncontrolled_chars _ _ hmem) (by decide)
  have htrim : trimChars (Json.obj members).chars = (Json.obj members).chars := by
    rw [hinner]
    exact trimChars_enclosed (by decide) (by decide) inner
  have hcomment : isScriptComment (Json.obj members).compact = false := by
    rw [isScriptComment, Bool.or_eq_false_iff]
    constructor
    · rw [Json.compact, hinner]
      exact String.isEmpty_eq_false_iff.2 (String.ofList_eq_empty_iff.not.2 (List.cons_ne_nil _ _))
    · rw [Json.compact, startsWith_ofList, hinner]
      rfl
  simp only [String.toList_append, Json.compact, String.toList_ofList]
  rw [linePayloads_line, hback.blanks.append_trim, hfront.blanks.trim_append, htrim]
  · exact if_neg (by rw [← Json.compact, hcomment]; exact Bool.false_ne_true)
  · simp only [List.mem_append, not_or]
    exact ⟨⟨hfront.not_mem, hbreak⟩, hback.not_mem⟩

theorem linePayloads_blank {line : String} (h : LineBlanks line) :
    linePayloads line.toList = [] := by
  have hnone := h.blanks.trim_append []
  rw [List.append_nil] at hnone
  rw [linePayloads_line h.not_mem, hnone]
  rfl

theorem linePayloads_comment {front text : String} (hfront : LineBlanks front)
    (htext : '\n' ∉ text.toList) : linePayloads (front ++ "//" ++ text).toList = [] := by
  have hslash : isBlank '/' = false := by decide
  have htrim : trimChars (front.toList ++ ('/' :: '/' :: text.toList)) =
      '/' :: '/' :: trimEndChars text.toList := by
    rw [hfront.blanks.trim_append, trimChars_cons hslash, trimEndChars_cons hslash]
  have hline : (front ++ "//" ++ text).toList = front.toList ++ ('/' :: '/' :: text.toList) := by
    rw [String.toList_append, String.toList_append, List.append_assoc]
    rfl
  rw [hline, linePayloads_line, htrim]
  · refine if_pos ?_
    rw [isScriptComment, startsWith_ofList]
    exact Bool.or_true _
  · simp only [List.mem_append, List.mem_cons, not_or]
    exact ⟨hfront.not_mem, by decide, by decide, htext⟩

theorem ScriptLines.payloads {objects : List Json} {lines : List String}
    (h : ScriptLines objects lines) :
    linePayloads (joinWith "\n" lines).toList = objects.map Json.compact := by
  rw [linePayloads_joinWith]
  induction h with
  | none => rfl
  | object members hfront hback rest ih =>
    rw [List.flatMap_cons, linePayloads_object members hfront hback, ih, List.map_cons,
      List.singleton_append]
  | blank hline rest ih => rw [List.flatMap_cons, linePayloads_blank hline, ih, List.nil_append]
  | comment hfront htext rest ih =>
    rw [List.flatMap_cons, linePayloads_comment hfront htext, ih, List.nil_append]

/-- The first thing in such a script is an object or a comment. -/
theorem ScriptLines.starts {objects : List Json} {lines : List String}
    (h : ScriptLines objects lines) :
    ∀ c ∈ (trimStartChars (joinWith "\n" lines).toList).head?, c = '\x7b' ∨ c = '/' := by
  have hstart {front : String} (hfront : LineBlanks front) {c : Char} (hc : isBlank c = false)
      (cs : List Char) : (trimStartChars (front.toList ++ c :: cs)).head? = some c := by
    rw [hfront.blanks.trimStart_append, trimStartChars_cons hc, List.head?_cons]
  induction h with
  | none => exact fun c hc => by cases hc
  | @object objects lines front back members hfront hback rest ih =>
    obtain ⟨tail, htail⟩ := joinWith_starts "\n" (front ++ (Json.obj members).compact ++ back) lines
    obtain ⟨inner, hinner⟩ := Json.obj_chars members
    intro c hc
    rw [htail, String.toList_append, String.toList_append, Json.compact, String.toList_ofList,
      hinner, List.append_assoc, List.append_assoc, List.cons_append,
      hstart hfront (by decide)] at hc
    exact Or.inl (Option.some.inj hc).symm
  | @blank objects lines line hline rest ih =>
    by_cases hrest : lines = []
    · subst hrest
      have hall := hline.blanks.trimStart_append []
      rw [List.append_nil] at hall
      intro c hc
      rw [joinWith, hall] at hc
      cases hc
    · -- the white space goes on over the end of the line
      have hbefore : Blanks (line.toList ++ ['\n']) :=
        List.forall_mem_append.2 ⟨hline.blanks, List.forall_mem_singleton.2 (by decide)⟩
      have hjoined : (joinWith "\n" (line :: lines)).toList =
          line.toList ++ ['\n'] ++ (joinWith "\n" lines).toList := by
        rw [joinWith_cons "\n" line hrest, String.toList_append, String.toList_append]
        rfl
      rw [hjoined, hbefore.trimStart_append]
      exact ih
  | @comment objects lines front text hfront htext rest ih =>
    obtain ⟨tail, htail⟩ := joinWith_starts "\n" (front ++ "//" ++ text) lines
    intro c hc
    rw [htail, String.toList_append, String.toList_append, List.append_assoc,
      List.append_assoc] at hc
    rw [show "//".toList = ['/', '/'] from rfl, List.cons_append, hstart hfront (by decide)] at hc
    exact Or.inr (Option.some.inj hc).symm

theorem ScriptLines.scriptPayloads {objects : List Json} {lines : List String}
    (h : ScriptLines objects lines) :
    scriptPayloads? (joinWith "\n" lines) = some (objects.map Json.compact) := by
  have hbracket : startsWith (trim (joinWith "\n" lines)) "[" = false := by
    rw [trim, startsWith_ofList]
    cases htrim : trimChars (joinWith "\n" lines).toList with
    | nil => rfl
    | cons c cs =>
      -- trimming the end leaves the first character
      have hfront : trimChars (joinWith "\n" lines).toList <+:
          trimStartChars (joinWith "\n" lines).toList := List.rdropWhile_prefix isBlank _
      obtain ⟨behind, hbehind⟩ := hfront
      rw [htrim] at hbehind
      have hc := h.starts c (by rw [← hbehind]; rfl)
      rcases hc with rfl | rfl <;> rfl
  rw [scriptPayloads?_of_lines hbracket, h.payloads]

end Layout

section List

/-- A list in compact JSON has the compact forms of its items as payloads, unless it is too deep. -/
theorem scriptPayloads?_list {items : List Json} (hcanonical : ∀ j ∈ items, j.canonical = j)
    (hnumbers : ∀ j ∈ items, j.Throughout Json.Number.ReadsItself fun _ => True) :
    scriptPayloads? (Json.arr items).compact =
      if (Json.arr items).levels ≤ Json.maxNesting then some (items.map Json.compact)
      else none := by
  obtain ⟨inner, hinner⟩ := Json.itemChars_ends items
  have hchars : (Json.arr items).chars = '[' :: (inner ++ [']']) := by
    rw [Json.chars, hinner]
  have htrim : trim (Json.arr items).compact = (Json.arr items).compact := by
    rw [trim, Json.compact, String.toList_ofList, hchars]
    exact congrArg String.ofList (trimChars_enclosed (by decide) (by decide) inner)
  have hbracket : startsWith (Json.arr items).compact "[" = true := by
    rw [Json.compact, startsWith_ofList, hchars]
    rfl
  have hthroughout : (Json.arr items).Throughout Json.Number.ReadsItself fun _ => True :=
    Json.itemsThroughout_iff.2 hnumbers
  have hitems : Json.canonicalItems items = items := by
    rw [Json.canonicalItems_eq]
    exact (List.map_congr_left hcanonical).trans (List.map_id' items)
  unfold scriptPayloads?
  dsimp only
  rw [htrim, if_pos hbracket, Json.parse?, Json.read?_compact hthroughout]
  split
  · rw [Option.map_some, Option.bind_some, Json.canonical, hitems]
    rfl
  · rfl

end List

namespace Task

/-- What a script does is in its payloads; the name of its source only counts when there are none. -/
theorem apply_of_payloads {env : Environment} {args : ApplyArguments} {console : Console}
    {input commands script other : String}
    (hscript : (scriptText env args.commands console).1 = .ok script)
    (hother : (scriptText { env with input } commands console).1 = .ok other)
    (hsame : scriptPayloads? other = scriptPayloads? script) :
    (Task.apply { env with input } { args with commands } console).2 =
      (Task.apply env args console).2 ∧
    (scriptPayloads? script ≠ some [] →
      Task.apply { env with input } { args with commands } console =
        Task.apply env args console) := by
  have hconfig : config { env with input } = config env := rfl
  have hproject : readProject { env with input } = readProject env := readProject_of_now rfl
  have hpath : Environment.path { env with input } = env.path := rfl
  unfold Task.apply
  dsimp only
  rw [hconfig, hproject, hpath]
  -- up to the script both runs are one; what they do differently must not show in the console
  let alike (x y : Except Failure Unit × Console) : Prop :=
    x.2 = y.2 ∧ (scriptPayloads? script ≠ some [] → x = y)
  have halike (x : Except Failure Unit × Console) : alike x x := ⟨rfl, fun _ => rfl⟩
  change alike _ _
  refine (onlyReads_config env).bind_rel halike fun settings _ => ?_
  refine (onlyReads_readProject env _).bind_rel halike fun r _ => ?_
  rw [bind_of_ok ((onlyReads_scriptText _ _).run hscript),
    bind_of_ok ((onlyReads_scriptText _ _).run hother), hsame]
  match hpayloads : scriptPayloads? script with
  | none =>
    dsimp only
    exact halike _
  | some [] =>
    simp only [List.isEmpty_nil, if_true]
    exact ⟨rfl, fun hsome => absurd hpayloads hsome⟩
  | some (p :: rest) =>
    -- only the refusal of a script without payloads names the source
    simp only [List.isEmpty_cons, Bool.false_eq_true, if_false]
    exact halike _

/-- Canonical objects one to a line, whatever blank lines, comments and white space stand between
them, have their compact forms as payloads. The list of them in compact form has the same payloads as
long as it is not too deep to be read, and is refused otherwise. So within that depth a script does
the same to a project in both forms; a script without objects is refused, and the refusal names its
source. -/
theorem script_forms_agree {objects : List Json} {lines : List String}
    (hlines : ScriptLines objects lines) (hcanonical : ∀ j ∈ objects, j.canonical = j)
    (hnumbers : ∀ j ∈ objects, j.Throughout Json.Number.ReadsItself fun _ => True) :
    scriptPayloads? (joinWith "\n" lines) = some (objects.map Json.compact) ∧
    scriptPayloads? (Json.arr objects).compact =
      (if (Json.arr objects).levels ≤ Json.maxNesting then some (objects.map Json.compact)
        else none) ∧
    ((Json.arr objects).levels ≤ Json.maxNesting →
      ∀ (env : Environment) (args : ApplyArguments) (console : Console) (input commands : String),
        (scriptText env args.commands console).1 = .ok (Json.arr objects).compact →
        (scriptText { env with input } commands console).1 = .ok (joinWith "\n" lines) →
        (Task.apply { env with input } { args with commands } console).2 =
          (Task.apply env args console).2 ∧
        (objects ≠ [] → Task.apply { env with input } { args with commands } console =
          Task.apply env args console)) := by
  have hbyLine := hlines.scriptPayloads
  have hlist := scriptPayloads?_list hcanonical hnumbers
  refine ⟨hbyLine, hlist, ?_⟩
  intro hlevels env args console input commands harray hjoined
  rw [if_pos hlevels] at hlist
  obtain ⟨hconsole, hsame⟩ := apply_of_payloads harray hjoined (hbyLine.trans hlist.symm)
  refine ⟨hconsole, fun hsome => hsame ?_⟩
  rw [hlist]
  exact fun hnone => hsome (List.map_eq_nil_iff.1 (Option.some.inj hnone))

/-- A command with a text that could be taken for a line break, a comment and a list. -/
def namingCommand : List (String × Json) :=
  [("name", .str "a\n// \"[b]\""), ("type", .str "addSection")]

def zoomCommand : List (String × Json) := [("type", .str "setZoom"), ("zoom", .nat 2)]

/-- The two commands among other lines, some of which end with carriage returns. -/
def twoCommandLines : List String :=
  [" " ++ "//" ++ " two steps\r", "\t", "  " ++ (Json.obj namingCommand).compact ++ " \r",
    "\t" ++ (Json.obj zoomCommand).compact ++ " "]

theorem script_forms_agree_two :
    let twoCommands : List Json := [.obj namingCommand, .obj zoomCommand]
    ScriptLines twoCommands twoCommandLines ∧ (∀ j ∈ twoCommands, j.canonical = j) ∧
      (∀ j ∈ twoCommands, j.Throughout Json.Number.ReadsItself fun _ => True) ∧
      (Json.arr twoCommands).levels ≤ Json.maxNesting ∧
      scriptPayloads? (joinWith "\n" twoCommandLines) = some (twoCommands.map Json.compact) ∧
      scriptPayloads? (Json.arr twoCommands).compact = some (twoCommands.map Json.compact) ∧
      Task.apply (mainEnvironment (joinWith "\n" twoCommandLines)) mainArguments mainConsole =
        Task.apply (mainEnvironment (Json.arr twoCommands).compact) mainArguments mainConsole := by
  intro twoCommands
  have hlines : ScriptLines twoCommands twoCommandLines :=
    .comment (lineBlanks_of_all (by decide)) (by decide) (.blank (lineBlanks_of_all (by decide))
      (.object _ (lineBlanks_of_all (by decide)) (lineBlanks_of_all (by decide))
        (.object _ (lineBlanks_of_all (by decide)) (lineBlanks_of_all (by decide)) .none)))
  have hcanonical : ∀ j ∈ twoCommands, j.canonical = j := by
    intro j hj
    rcases List.mem_pair.1 hj with rfl | rfl <;> rfl
  have hnumbers : ∀ j ∈ twoCommands, j.Throughout Json.Number.ReadsItself fun _ => True := by
    intro j hj
    rcases List.mem_pair.1 hj with rfl | rfl
    · exact ⟨trivial, trivial, trivial, trivial⟩
    · exact ⟨trivial, trivial, Json.Number.readsItself_int (by decide) (by decide), trivial⟩
  have hlevels : (Json.arr twoCommands).levels ≤ Json.maxNesting := by decide
  obtain ⟨hbyLine, hlist, hagree⟩ := script_forms_agree hlines hcanonical hnumbers
  rw [if_pos hlevels] at hlist
  obtain ⟨-, hsame⟩ := hagree hlevels (mainEnvironment (Json.arr twoCommands).compact) mainArguments
    mainConsole (joinWith "\n" twoCommandLines) "-" rfl rfl
  exact ⟨hlines, hcanonical, hnumbers, hlevels, hbyLine, hlist, hsame (List.cons_ne_nil _ _)⟩

/-- Lists in each other. -/
def nestedLists : Nat → Json
  | 0 => .arr []
  | n + 1 => .arr [nestedLists n]

theorem nestedLists_levels (n : Nat) : (nestedLists n).levels = n + 1 := by
  induction n with
  | zero => rfl
  | succ n ih =>
    rw [nestedLists, Json.levels, Json.itemsLevels, Json.itemsLevels, ih, Nat.max_zero]

theorem nestedLists_canonical (n : Nat) : (nestedLists n).canonical = nestedLists n := by
  induction n with
  | zero => rfl
  | succ n ih =>
    rw [nestedLists, Json.canonical, Json.canonicalItems, Json.canonicalItems, ih]

theorem nestedLists_throughout (n : Nat) {number : Json.Number → Prop}
    {object : List (String × Json) → Prop} : (nestedLists n).Throughout number object := by
  induction n with
  | zero => trivial
  | succ n ih => exact ⟨ih, trivial⟩

/-- An object as deep as a value may be. -/
def deepestObject : Json := .obj [("items", nestedLists 125)]

/-- An object that can just be read is a payload on a line of its own, but a list with it is too
deep. -/
theorem list_of_deepest_refused :
    ScriptLines [deepestObject] [deepestObject.compact] ∧
      deepestObject.canonical = deepestObject ∧
      deepestObject.Throughout Json.Number.ReadsItself (fun _ => True) ∧
      scriptPayloads? deepestObject.compact = some [deepestObject.compact] ∧
      scriptPayloads? (Json.arr [deepestObject]).compact = none := by
  have hlines : ScriptLines [deepestObject] [deepestObject.compact] := by
    have hnone : LineBlanks "" := lineBlanks_of_all (by decide)
    have hline := ScriptLines.object [("items", nestedLists 125)] hnone hnone .none
    rwa [String.empty_append, String.append_empty] at hline
  have hcanonical : deepestObject.canonical = deepestObject := by
    unfold deepestObject
    rw [Json.canonical, Json.canonicalMembers, Json.canonicalMembers, nestedLists_canonical]
    rfl
  have hnumbers : deepestObject.Throughout Json.Number.ReadsItself (fun _ => True) :=
    ⟨trivial, nestedLists_throughout 125, trivial⟩
  have hlevels : (Json.arr [deepestObject]).levels = 128 := by
    unfold deepestObject
    simp only [Json.levels, Json.itemsLevels, Json.membersLevels, nestedLists_levels, Nat.max_zero]
  have hlist := scriptPayloads?_list (List.forall_mem_singleton.2 hcanonical)
    (List.forall_mem_singleton.2 hnumbers)
  rw [hlevels, if_neg (by decide)] at hlist
  exact ⟨hlines, hcanonical, hnumbers, hlines.scriptPayloads, hlist⟩

end Task

end PageBuilder
