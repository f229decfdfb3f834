import Preflight.Proofs.ReportText
import Preflight.Proofs.TomlDocuments

/-! # Settings are loaded as they were saved
The document of settings is read line by line as its statements. They build one table, whatever the order of the
overrides, and the settings are read back from the object of that table. So saving and loading settings loses
nothing, up to the two concurrencies that are ruled out: one that the format cannot hold, and none at all. -/
namespace Preflight

namespace Toml

/-- A change inside a table with a header, or one that a header implied, leads through it. -/
theorem Table.update_of_find? {change : Table → Option Table} {key : String} {path : List String} {t child : Table}
    {origin : Origin} {entries : List (String × Item)}
    (hfind : Entries.find? key t.entries = some (.table origin entries))
    (hchild : update false change path ⟨origin, entries⟩ = some child) :
    update false change (key :: path) t =
      some { t with entries := Entries.insert key (.table child.origin child.entries) t.entries } := by
  rw [update, hfind]
  dsimp only
  rw [if_neg (by simp), hchild]
  rfl

end Toml

namespace Settings

open Toml

def overrideStatement (e : String × Impact) : Statement := .setValue ⟨[], e.1⟩ (.str e.2.name)

def overrideItem (e : String × Impact) : String × Toml.Item := (e.1, .value (.str e.2.name))

def statements (s : Settings) (overrides : List (String × Impact)) : List Statement :=
  (match s.targetVersion with
    | some v => [.setValue ⟨[], "target_version"⟩ (.str v.text)]
    | none => []) ++
  [.setValue ⟨[], "concurrency"⟩ (.int s.concurrency.toNat)] ++
  [.openTable ⟨[], "checks"⟩] ++ [.setValue ⟨[], "skip"⟩ (Json.strings s.skip)] ++
  [.openTable ⟨["impact"], "overrides"⟩] ++
  overrides.map overrideStatement

private theorem yields_charsIn {s : Settings} (h : s.concurrency.toNat < integerBound)
    (overrides : List (String × Impact)) :
    Yields (s.charsIn overrides) (s.statements overrides) := by
  have hversion : Yields (match s.targetVersion with
      | some v => entryLine "target_version".toList (quote v.text.toList)
      | none => [])
      (match s.targetVersion with
      | some v => [.setValue ⟨[], "target_version"⟩ (.str v.text)]
      | none => []) := by
    cases s.targetVersion with
    | none => exact .nil
    | some v => exact .bareLine (by decide) (denotes_quote v.text)
  have hconcurrency : Yields (entryLine "concurrency".toList (Text.numeral s.concurrency.toNat))
      [.setValue ⟨[], "concurrency"⟩ (.int s.concurrency.toNat)] := .bareLine (by decide) (denotes_numeral h)
  have hchecks : Yields "[checks]\n".toList [.openTable ⟨[], "checks"⟩] :=
    .of_takeStatement? (c := '[') (s := "checks]\n".toList) (.inr rfl) fun _ => rfl
  have hskip : Yields (entryLine "skip".toList (arrayChars s.skip))
      [.setValue ⟨[], "skip"⟩ (Json.strings s.skip)] := .bareLine (by decide) (denotes_arrayChars s.skip)
  have himpact : Yields "[impact.overrides]\n".toList [.openTable ⟨["impact"], "overrides"⟩] :=
    .of_takeStatement? (c := '[') (s := "impact.overrides]\n".toList) (.inr rfl) fun _ => rfl
  have hoverride : ∀ e : String × Impact, Yields (entryLine (quoteKey e.1.toList) (quote e.2.name.toList))
      [overrideStatement e] := fun e => .entryLine e.1 (denotes_quote e.2.name)
  unfold charsIn statements
  exact ((((hversion.append hconcurrency).append (Yields.blank.append hchecks)).append hskip).append
    (Yields.blank.append himpact)).append (.flatMap hoverride overrides)

def table (s : Settings) (overrides : List (String × Toml.Item)) : Table where
  entries :=
    [("checks", .table .header [("skip", .value (Json.strings s.skip))]),
      ("concurrency", .value (.int s.concurrency.toNat)),
      ("impact", .table .implied [("overrides", .table .header overrides)])] ++
    match s.targetVersion with
    | some v => [("target_version", .value (.str v.text))]
    | none => []

private theorem build_statements (s : Settings) (overrides : List (String × Impact)) :
    Table.build [] (s.statements overrides) {} =
      Table.build ["impact", "overrides"] (overrides.map overrideStatement) (s.table []) := by
  unfold statements table
  cases s.targetVersion with
  | none => rfl
  | some v => rfl

/-- A further override stands beside the others and changes nothing else. -/
theorem update_table (s : Settings) {overrides : List (String × Toml.Item)} {key : String}
    (hnew : ∀ e ∈ overrides, e.1 ≠ key) (v : Json) :
    Table.update false (Table.setValue [] key v) ["impact", "overrides"] (s.table overrides) =
      some (s.table (Entries.insert key (.value v) overrides)) := by
  have hset : Table.update false (Table.setValue [] key v) [] ⟨.header, overrides⟩ =
      some ⟨.header, Entries.insert key (.value v) overrides⟩ := by
    simp only [Table.update, Table.setValue, Table.addNew, Entries.find?_eq_none_of_ne hnew, ne_eq,
      not_true_eq_false, false_and, if_false]
  have hoverrides : Entries.find? "overrides"
      (Table.mk .implied [("overrides", .table .header overrides)]).entries =
      some (.table .header overrides) := rfl
  have himpact : Entries.find? "impact" (s.table overrides).entries =
      some (.table .implied [("overrides", .table .header overrides)]) := rfl
  rw [Table.update_of_find? himpact (Table.update_of_find? hoverrides hset)]
  unfold table
  cases s.targetVersion with
  | none => rfl
  | some v => rfl

/-- The overrides are put into the table one after the other, each under a key that is not there yet. -/
theorem build_overrides (s : Settings) {overrides : List (String × Impact)} {present : List (String × Toml.Item)}
    (h : Entries.Apart (present ++ overrides.map overrideItem)) :
    Table.build ["impact", "overrides"] (overrides.map overrideStatement) (s.table present) =
      some (s.table ((overrides.map overrideItem).foldl
        (fun es e => Entries.insert e.1 e.2 es) present)) := by
  induction overrides generalizing present with
  | nil => rfl
  | cons e overrides ih =>
    have hnew : ∀ e' ∈ present, e'.1 ≠ e.1 := fun e' he' =>
      (List.pairwise_append.1 h).2.2 e' he' _ List.mem_cons_self
    have hinsert : (present ++ (e :: overrides).map overrideItem).Perm
        (Entries.insert e.1 (.value (.str e.2.name)) present ++ overrides.map overrideItem) :=
      List.perm_middle.trans ((Entries.insert_perm hnew _).append_right _).symm
    have hupdate := update_table s hnew (.str e.2.name)
    rw [List.map_cons, overrideStatement, Table.build]
    change (Table.update false (Table.setValue [] e.1 (.str e.2.name)) _ _ >>= _) = _
    rw [hupdate]
    exact ih (h.perm hinsert)

def object (s : Settings) : Json :=
  .obj ([("checks", .obj [("skip", Json.strings s.skip)]), ("concurrency", .int s.concurrency.toNat),
    ("impact", .obj [("overrides", Json.ofDictionary (fun i => .str i.name) s.overrides)])] ++
    Json.optionalMember "target_version" (fun v => .str v.text) s.targetVersion)

theorem entriesToJson_overrides (overrides : List (String × Impact)) :
    Toml.Item.entriesToJson (overrides.map overrideItem) = overrides.map fun e => (e.1, .str e.2.name) := by
  induction overrides with
  | nil => rfl
  | cons e overrides ih =>
    rw [List.map_cons, overrideItem, Toml.Item.entriesToJson, Toml.Item.toJson, ih, List.map_cons]

private theorem toJson_table (s : Settings) :
    (s.table (s.overrides.entries.map overrideItem)).toJson = s.object := by
  unfold table Table.toJson object
  cases s.targetVersion with
  | none =>
    simp only [List.append_nil, Toml.Item.entriesToJson, Toml.Item.toJson, entriesToJson_overrides,
      Json.optionalMember]
    rfl
  | some v =>
    simp only [List.cons_append, List.nil_append, Toml.Item.entriesToJson, Toml.Item.toJson,
      entriesToJson_overrides, Json.optionalMember]
    rfl

private theorem dropMark_charsIn (s : Settings) (overrides : List (String × Impact)) :
    dropMark (s.charsIn overrides) = s.charsIn overrides := by
  unfold charsIn
  cases s.targetVersion with
  | none => rfl
  | some v => rfl

/-- The document is read as the object of the settings, in whatever order it has the overrides. -/
theorem parseChars?_charsIn {s : Settings} (h : s.concurrency.toNat < integerBound)
    {overrides : List (String × Impact)} (hperm : overrides.Perm s.overrides.entries) :
    parseChars? (s.charsIn overrides) = some s.object := by
  have hascending : Entries.Ascending (s.overrides.entries.map overrideItem) := by
    rw [Entries.Ascending, List.pairwise_map]
    exact s.overrides.ascending
  have hentries := hperm.map overrideItem
  have hapart : Entries.Apart ([] ++ overrides.map overrideItem) := hascending.apart.perm hentries.symm
  have hbuild := build_overrides s hapart
  have hsorted := Entries.ofList_of_perm hentries hascending
  unfold Entries.ofList at hsorted
  rw [hsorted] at hbuild
  unfold parseChars?
  rw [dropMark_charsIn, (yields_charsIn h overrides).takeStatements?_eq]
  change (Table.build [] (s.statements overrides) {} >>= _) = _
  rw [build_statements, hbuild]
  exact congrArg some (toJson_table s)

private theorem readsBack_version : Json.ReadsBack versionOfJson fun v => .str v.text := by
  intro v
  simp only [versionOfJson, Version.parse?_text]

/-- A record of one field, which has a default, is read from the object with that member. -/
theorem asRecord_singleton {α : Type} {value : Json → Decoded α} {v : Json} {a : α} (h : value v = .ok a)
    (d : Dialect) (record field : String) (default : α) :
    Json.asRecord d record [field] (fun s => s.defaulted field value default) (.obj [(field, v)]) = .ok a := by
  rw [Json.asRecord, Slots.defaulted_members, Entries.find?, if_pos rfl]
  exact h

private theorem ofJson_object (s : Settings) : ofJson .toml s.object = .ok s := by
  have hversion : ∀ ms, Entries.find? "target_version" ms = s.targetVersion.map (fun v => .str v.text) →
      (Slots.members ms).defaulted "target_version" (Json.asOption versionOfJson) none = .ok s.targetVersion :=
    fun ms h => Slots.defaulted_optional h readsBack_version nofun
  have hconcurrency := Json.asNatBelow_of_lt s.concurrency.toNat_lt
  have hchecks := asRecord_singleton (Json.readsBack_asString.asArray s.skip) .toml "CheckRules" "skip" []
  have himpact := asRecord_singleton ((Impact.readsBack .toml).asDictionary s.overrides) .toml "ImpactOverrides"
    "overrides" Dictionary.empty
  unfold ofJson object Json.strings
  rw [Json.asRecord, hversion _ (by simp [Json.find?_optionalMember, Entries.find?])]
  simp only [Slots.defaulted_members, List.cons_append, List.nil_append, Entries.find?, ↓reduceIte, String.reduceEq,
    hconcurrency, hchecks, himpact]
  change Except.ok { s with concurrency := UInt64.ofNat s.concurrency.toNat } = .ok s
  rw [UInt64.ofNat_toNat]

private theorem parse_charsIn {s : Settings} (h : s.concurrency.toNat < integerBound)
    {overrides : List (String × Impact)}
    (hperm : overrides.Perm s.overrides.entries) : parse (String.ofList (s.charsIn overrides)) = s.validate := by
  have hparse : Toml.parse? (String.ofList (s.charsIn overrides)) = some s.object := by
    rw [Toml.parse?, String.toList_ofList, parseChars?_charsIn h hperm]
  rw [parse, hparse]
  dsimp only
  rw [ofJson_object]

private theorem load_toUTF8 (document : String) : load (.bytes document.toUTF8) = parse document := by
  have hread : String.fromUTF8? document.toUTF8 = some document := dif_pos document.isValidUTF8
  rw [load, hread]

private theorem run_saveTo (s : Settings) (overrides : List (String × Impact)) {file : File}
    (hdirectory : file.directoryExists = true) :
    (s.saveTo overrides).run file =
      if s.concurrency.toNat < integerBound then
        .ok () { file with contents := .bytes (String.ofList (s.charsIn overrides)).toUTF8 }
      else .error .unwritable file := by
  unfold saveTo textIn?
  by_cases h : s.concurrency.toNat < integerBound
  · rw [if_pos h, if_pos h]
    change (if file.directoryExists = true then _ else _ : EStateM SettingsError File Unit).run file = _
    rw [if_pos hdirectory]
    rfl
  · rw [if_neg h, if_neg h]
    rfl

/-- Settings are saved to a file in a directory that is there if and only if their concurrency is an integer of the
format; otherwise they cannot be written out and the file stays as it is. What was saved is loaded as it was, except
that settings under which no check could run are refused. -/
theorem load_of_saveTo (s : Settings) {overrides : List (String × Impact)}
    (hperm : overrides.Perm s.overrides.entries) {file : File} (hdirectory : file.directoryExists = true) :
    ((∃ saved, (s.saveTo overrides).run file = .ok () saved) ↔ s.concurrency.toNat ≤ 9223372036854775807) ∧
      (∀ e left, (s.saveTo overrides).run file = .error e left → e = .unwritable ∧ left = file) ∧
      ∀ saved, (s.saveTo overrides).run file = .ok () saved →
        (1 ≤ s.concurrency → load saved.contents = .ok s) ∧
          (load saved.contents = .error .noConcurrency ↔ s.concurrency = 0) := by
  have hbound : s.concurrency.toNat < integerBound ↔ s.concurrency.toNat ≤ 9223372036854775807 := by
    rw [integerBound, UInt64.size]
    omega
  rw [run_saveTo s overrides hdirectory]
  by_cases h : s.concurrency.toNat < integerBound
  · rw [if_pos h]
    refine ⟨iff_of_true ⟨_, rfl⟩ (hbound.1 h), nofun, ?_⟩
    rintro saved heq
    cases heq
    rw [load_toUTF8, parse_charsIn h hperm, validate]
    by_cases hzero : s.concurrency = 0
    · rw [if_pos hzero]
      refine ⟨fun hone => ?_, iff_of_true rfl hzero⟩
      rw [hzero] at hone
      exact absurd hone (by decide)
    · rw [if_neg hzero]
      exact ⟨fun _ => rfl, iff_of_false nofun hzero⟩
  · rw [if_neg h]
    refine ⟨iff_of_false nofun (mt hbound.2 h), ?_, nofun⟩
    rintro e left heq
    cases heq
    exact ⟨rfl, rfl⟩

/-- Settings whose texts hold quotes, backslashes, line feeds and controls, and a key that is empty. -/
def awkward : Settings where
  targetVersion := some { major := 3, minor := 0, patch := 0, pre := ["rc", "1"], build := ["007"] }
  skip := ["workloads.*", "\"\"\"\n", "", "\\\t\r"]
  overrides := Dictionary.ofList [("", .advisory), ("a \"b\" \\", .blocking), ("über.\n", .blocking)]

/-- They are loaded as they were saved, here to a file that held something else and in an order of their own. With
another concurrency they may be refused, or leave the file as it is. -/
theorem awkward_reloaded :
    let file : File := { directoryExists := true, contents := .bytes "skip".toUTF8 }
    let overrides := awkward.overrides.entries.reverse
    (∃ saved, (awkward.saveTo overrides).run file = .ok () saved ∧ load saved.contents = .ok awkward) ∧
      (∃ saved, (({ awkward with concurrency := 0 } : Settings).saveTo overrides).run file = .ok () saved ∧
        load saved.contents = .error .noConcurrency) ∧
      ∀ saved, (({ awkward with concurrency := 9223372036854775808 } : Settings).saveTo overrides).run file ≠
        .ok () saved := by
  intro file overrides
  have hperm : overrides.Perm awkward.overrides.entries := List.reverse_perm _
  have hdirectory : file.directoryExists = true := rfl
  refine ⟨?_, ?_, ?_⟩
  · obtain ⟨hsaves, -, hloads⟩ := load_of_saveTo awkward hperm hdirectory
    obtain ⟨saved, hrun⟩ := hsaves.2 (by decide)
    exact ⟨saved, hrun, (hloads saved hrun).1 (by decide)⟩
  · obtain ⟨hsaves, -, hloads⟩ := load_of_saveTo { awkward with concurrency := 0 } hperm hdirectory
    obtain ⟨saved, hrun⟩ := hsaves.2 (by decide)
    exact ⟨saved, hrun, (hloads saved hrun).2.2 rfl⟩
  · intro saved hrun
    obtain ⟨hsaves, -, -⟩ :=
      load_of_saveTo { awkward with concurrency := 9223372036854775808 } hperm hdirectory
    exact absurd (hsaves.1 ⟨saved, hrun⟩) (by decide)

end Settings

end Preflight
