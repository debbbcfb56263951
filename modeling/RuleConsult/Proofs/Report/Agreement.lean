import RuleConsult.Program.Usual
import RuleConsult.Proofs.Cache.Calls
import RuleConsult.Proofs.Report.LongNumerals

/-!
# Validation and loading agree

Validation goes its own way through reading and building, and so does loading from a file through a
cache. They agree all the same. A report is valid exactly if the base is loaded, and it holds that
base; otherwise its errors are what loading fails with. A file is decoded by both in the same way,
so a file is valid exactly if a cache without entries loads it; the warning about its name has no
say in this. Bytes that are no text are reported as an error where the encoding can say at which
byte they stop being one; if it refuses the bytes as a whole, there is no report
(`validateFile_unmarked_breaks`).

* `Report.Describes`: a report on a text, in terms of reading, building and loading that text;
* `exists_describes`: validation gives such a report wherever loading does not break off;
* `validateFile_of_fetchBase`, `exists_fetchBase_of_isValid`: valid files are those that a cache
  without entries loads;
* `validation_agrees`: texts and files together.
-/

namespace RuleConsult

open Text

/-! ## Reports on texts -/

/-- The error that is reported for an issue. -/
def Issue.finding (issue : Issue) : Finding := ⟨.error, issue.message, some issue.line, ""⟩

/-- The warning that is reported for a notice. -/
def Notice.finding (notice : Notice) : Finding := ⟨.warning, notice.message, none, ""⟩

/-- The report says of the text what reading, building and loading it show. -/
structure Report.Describes (report : Report) (keywords : Keywords) (text : String) : Prop where
  isValid_iff : report.isValid = true ↔ ∃ base, loadBase keywords text = .ok base
  errors_iff : report.errors = [] ↔ ∃ base, loadBase keywords text = .ok base
  base_iff : ∀ base, report.base = some base ↔ loadBase keywords text = .ok base
  unreadable : ∀ fault, loadBase keywords text = .error (.unreadable fault) →
    ∃ suggestion, report.errors =
      [⟨.error, fault.message, some fault.location.line, suggestion⟩]
  inconsistent : ∀ issues, loadBase keywords text = .error (.inconsistent issues) →
    report.errors = issues.map Issue.finding
  /-- The notices of the building are reported even if it found issues. -/
  warnings : ∀ entries built, readDocument keywords text = .ok entries →
    build entries = .ok built → report.warnings = built.notices.map Notice.finding
  unread : ∀ fault, readDocument keywords text = .error fault → report.warnings = []
  infos : ∀ base, loadBase keywords text = .ok base → report.infos.map Finding.message =
    (base.goalCategories.filter fun category => category ∉ base.translations.categories).map
      fun category => s!"Categoria final '{category}' sem tradução"
  uninformed : (∀ base, loadBase keywords text ≠ .ok base) → report.infos = []

variable {keywords : Keywords} {text source : String} {entries : List Entry} {built : Build}

/-- Building gives a base exactly if it finds no issue. -/
theorem issues_eq_nil_iff_of_build (h : build entries = .ok built) :
    built.issues = [] ↔ ∃ base, built.base? = some base := by
  obtain ⟨draft, -, rfl⟩ := build_eq_ok_iff.1 h
  by_cases hissues : draft.issues = [] <;> simp [hissues]

/-- What is loaded once the entries are built. -/
theorem loadBase_of_build (hread : readDocument keywords text = .ok entries)
    (hbuild : build entries = .ok built) : loadBase keywords text =
      match built.base? with
      | some base => .ok base
      | none => .error (.inconsistent built.issues) := by
  obtain ⟨base?, issues, notices⟩ := built
  rw [loadBase, hread]
  simp only [hbuild]
  cases base? <;> rfl

/-- What is reported once the entries are built. -/
theorem validateText_of_build (hread : readDocument keywords text = .ok entries)
    (hbuild : build entries = .ok built) : validateText keywords text source =
      .ok ⟨source, built.issues.isEmpty, built.issues.map Issue.finding,
        built.notices.map Notice.finding, built.base?.toList.flatMap Base.labelFindings,
        built.base?⟩ := by
  rw [validateText, hread]
  simp only [hbuild, Bind.bind, Except.bind, pure, Except.pure, List.isEmpty_map]
  rfl

/-- The labels that are missed are those of goals to which no label is bound. -/
theorem messages_labelFindings (base : Base) : base.labelFindings.map Finding.message =
    (base.goalCategories.filter fun category => category ∉ base.translations.categories).map
      fun category => s!"Categoria final '{category}' sem tradução" := by
  rw [Base.labelFindings, List.map_map]
  refine congrArg (List.map _) (List.filter_congr fun category _ => ?_)
  rw [Base.translation?, BindingTable.text?, Option.isNone_map, Bool.eq_iff_iff,
    Option.isNone_iff_eq_none, decide_eq_true_iff]
  exact Table.get?_eq_none_iff

/-- The report on entries that are built describes the text. -/
theorem describes_of_build (hread : readDocument keywords text = .ok entries)
    (hbuild : build entries = .ok built) :
    ∃ report, validateText keywords text source = .ok report ∧ report.Describes keywords text := by
  refine ⟨_, validateText_of_build hread hbuild, ?_⟩
  have hload := loadBase_of_build hread hbuild
  have hissues := issues_eq_nil_iff_of_build hbuild
  have hwarnings : ∀ entries' built', readDocument keywords text = .ok entries' →
      build entries' = .ok built' →
        built.notices.map Notice.finding = built'.notices.map Notice.finding := by
    intro entries' built' hread' hbuild'
    cases hread.symm.trans hread'
    cases hbuild.symm.trans hbuild'
    rfl
  -- Where there is a base there are no issues, and the other way round.
  obtain ⟨base?, issues, notices⟩ := built
  cases base? with
  | some base =>
    obtain rfl : issues = [] := hissues.2 ⟨base, rfl⟩
    dsimp only at hload
    exact {
      isValid_iff := by simp [hload]
      errors_iff := by simp [hload]
      base_iff := by simp [hload]
      unreadable := by simp [hload]
      inconsistent := by simp [hload]
      warnings := hwarnings
      unread := by simp [hread]
      infos := by simp [hload, messages_labelFindings]
      uninformed := by simp [hload] }
  | none =>
    have hne : issues ≠ [] := fun hnil => by simpa using hissues.1 hnil
    dsimp only at hload
    exact {
      isValid_iff := by simp [hload, hne]
      errors_iff := by simp [hload, hne]
      base_iff := by simp [hload]
      unreadable := by simp [hload]
      inconsistent := by simp [hload]
      warnings := hwarnings
      unread := by simp [hread]
      infos := by simp [hload]
      uninformed := by simp }

/-- The report on a text that cannot be read describes it. -/
theorem describes_of_unreadable {fault : ReadFault}
    (hread : readDocument keywords text = .error fault) :
    ∃ report, validateText keywords text source = .ok report ∧ report.Describes keywords text := by
  have hload : loadBase keywords text = .error (.unreadable fault) := by
    rw [loadBase, hread]
  refine ⟨⟨source, false, [⟨.error, fault.message, some fault.location.line,
    "Verifique a sintaxe da entrada."⟩], [], [], none⟩, by rw [validateText, hread], ?_⟩
  exact {
    isValid_iff := by simp [hload]
    errors_iff := by simp [hload]
    base_iff := by simp [hload]
    unreadable := by simp [hload]
    inconsistent := by simp [hload]
    warnings := by simp [hread]
    unread := by simp
    infos := by simp [hload]
    uninformed := by simp }

/-- Wherever loading does not break off, validation gives a report that describes the text. -/
theorem exists_describes (source : String)
    (h : ∀ fault, loadBase keywords text ≠ .error (.numeral fault)) :
    ∃ report, validateText keywords text source = .ok report ∧ report.Describes keywords text := by
  cases hread : readDocument keywords text with
  | error fault => exact describes_of_unreadable hread
  | ok entries =>
    cases hbuild : build entries with
    | error fault => exact absurd (loadBase_eq_numeral_iff.2 ⟨entries, hread, hbuild⟩) (h fault)
    | ok built => exact describes_of_build hread hbuild

/-- A text that is loaded is valid, and its report holds the base. -/
theorem validateText_of_loadBase {base : Base} (source : String)
    (hload : loadBase keywords text = .ok base) :
    ∃ report, validateText keywords text source = .ok report ∧ report.isValid = true ∧
      report.base = some base := by
  obtain ⟨report, hreport, hdescribes⟩ := exists_describes source fun fault => by
    rw [hload]
    exact nofun
  exact ⟨report, hreport, hdescribes.isValid_iff.2 ⟨base, hload⟩,
    (hdescribes.base_iff base).2 hload⟩

/-- A text that is valid is loaded. -/
theorem exists_loadBase_of_isValid {report : Report}
    (hreport : validateText keywords text source = .ok report) (hvalid : report.isValid = true) :
    ∃ base, loadBase keywords text = .ok base := by
  have hnumeral : ∀ fault, loadBase keywords text ≠ .error (.numeral fault) := by
    intro fault hload
    rw [validateText_eq_error_iff.2 hload] at hreport
    cases hreport
  obtain ⟨described, hdescribed, hdescribes⟩ := exists_describes source hnumeral
  cases hreport.symm.trans hdescribed
  exact hdescribes.isValid_iff.1 hvalid

/-! ## Reports on files -/

section

variable [Encodings]

variable {convention : Convention} {store : FileStore} {path : Path} {bytes : List UInt8}

/-- A file that is decoded is reported on like its text, up to a warning. -/
theorem validateFile_of_readText (hfile : store.readBytes path = .ok bytes)
    (htext : store.readText path convention.encoding = .ok text) :
    validateFile keywords convention store path =
      ((validateText keywords text path.toText).mapError .numeral).map fun report =>
        { report with warnings := report.warnings ++ extensionFinding convention path } := by
  rw [validateFile, FileStore.exists?_of_readBytes hfile]
  simp only [htext]
  cases validateText keywords text path.toText <;> rfl

/-- The text of a file that is not decoded is not read. -/
theorem readText_of_decode_eq_error {code : Encoding} {fault : DecodeFault}
    (hfile : store.readBytes path = .ok bytes)
    (hcode : FileStore.encodingOf convention.encoding = .ok code)
    (hdecode : code.readText bytes = .error fault) :
    store.readText path convention.encoding = .error (.ofDecode fault) := by
  rw [FileStore.readText_of_encodingOf hcode, hfile]
  simp [Bind.bind, Except.bind, hdecode, Except.mapError]

/-- Where the encoding says which bytes are no text, this is reported as an error. -/
theorem validateFile_of_invalid {code : Encoding} {reason : DecodeReason} {start : Nat}
    (hfile : store.readBytes path = .ok bytes)
    (hcode : FileStore.encodingOf convention.encoding = .ok code)
    (hdecode : code.readText bytes = .error (.invalid reason start)) :
    ∃ report finding, validateFile keywords convention store path = .ok report ∧
      report.isValid = false ∧ report.errors = [finding] ∧ finding.severity = .error := by
  have htext := readText_of_decode_eq_error hfile hcode hdecode
  rw [validateFile, FileStore.exists?_of_readBytes hfile]
  simp only [htext, FileFault.ofDecode]
  exact ⟨_, _, rfl, rfl, rfl, rfl⟩

/-- Where the encoding refuses the bytes as a whole, there is no report. -/
theorem validateFile_of_unfit {code : Encoding} {message : String}
    (hfile : store.readBytes path = .ok bytes)
    (hcode : FileStore.encodingOf convention.encoding = .ok code)
    (hdecode : code.readText bytes = .error (.unfit message)) :
    validateFile keywords convention store path = .error (.file (.unfit message)) := by
  have htext := readText_of_decode_eq_error hfile hcode hdecode
  rw [validateFile, FileStore.exists?_of_readBytes hfile]
  simp only [htext, FileFault.ofDecode]

/-- A file from which a base is read is valid, and its report holds the base. -/
theorem validateFile_of_fetchBase {base : Base}
    (h : fetchBase keywords convention.encoding store path = .ok base) :
    ∃ report, validateFile keywords convention store path = .ok report ∧ report.isValid = true ∧
      report.base = some base := by
  obtain ⟨bytes, hfile, code, text, hcode, hdecode, hload⟩ := fetchBase_eq_ok_iff.1 h
  have htext : store.readText path convention.encoding = .ok text :=
    FileStore.readText_eq_ok_iff.2 ⟨bytes, code, hfile, hcode, hdecode⟩
  obtain ⟨report, hreport, hvalid, hbase⟩ := validateText_of_loadBase path.toText hload
  rw [validateFile_of_readText hfile htext, hreport]
  exact ⟨_, rfl, hvalid, hbase⟩

/-- From a valid file a base is read. -/
theorem exists_fetchBase_of_isValid {report : Report} (hfile : store.readBytes path = .ok bytes)
    (hreport : validateFile keywords convention store path = .ok report)
    (hvalid : report.isValid = true) :
    ∃ base, fetchBase keywords convention.encoding store path = .ok base := by
  cases htext : store.readText path convention.encoding with
  | error fault =>
    -- There is a report only if it says that the file is not decoded.
    rw [validateFile, FileStore.exists?_of_readBytes hfile] at hreport
    simp only [htext] at hreport
    cases fault <;> cases hreport
    cases hvalid
  | ok text =>
    rw [validateFile_of_readText hfile htext] at hreport
    cases hvalidate : validateText keywords text path.toText with
    | error fault =>
      rw [hvalidate] at hreport
      cases hreport
    | ok textReport =>
      rw [hvalidate] at hreport
      cases hreport
      -- The warning about the name leaves the verdict on the text as it is.
      obtain ⟨base, hload⟩ := exists_loadBase_of_isValid hvalidate hvalid
      refine ⟨base, ?_⟩
      rw [fetchBase_of_readBytes hfile]
      simp only [htext, hload]
      rfl

/-- A cache without entries loads the base that is read from a file, and nothing else. -/
theorem exists_getOrLoad_new_iff {encoding : Datum} {base : Base} (limit : Int) :
    (∃ edition, ((Cache.new (some limit) keywords encoding).getOrLoad store path).2 = .ok edition ∧
        edition.base = base) ↔
      fetchBase keywords encoding store path = .ok base := by
  have hbase := Cache.base_getOrLoad_new limit keywords encoding store path
  generalize ((Cache.new (some limit) keywords encoding).getOrLoad store path).2 = loaded at hbase ⊢
  -- Both sides come to the same base or to a fault each, as the cache has no entry to go by.
  cases loaded with
  | error fault =>
    cases hfetch : fetchBase keywords encoding store path with
    | error fault => simp
    | ok read =>
      rw [hfetch] at hbase
      cases hbase
  | ok edition =>
    cases hfetch : fetchBase keywords encoding store path with
    | error fault =>
      rw [hfetch] at hbase
      cases hbase
    | ok read =>
      rw [hfetch] at hbase
      cases hbase
      simp

end

/-- Validation agrees with loading. It gives a report on every text for which loading does not break
off, and the report describes what loading gives. A file is valid exactly if a cache without entries
loads it, and the report then holds the base that is loaded. Bytes that cannot be decoded are loaded
by no cache; they are an error if the encoding says which of them are no text, and if it refuses
them as a whole validation breaks off with that. -/
theorem validation_agrees [Encodings] (keywords : Keywords) :
    (∀ text source, (∀ fault, loadBase keywords text ≠ .error (.numeral fault)) →
      ∃ report, validateText keywords text source = .ok report ∧
        report.Describes keywords text) ∧
    ∀ (convention : Convention) (store : FileStore) (path : Path) (bytes : List UInt8)
      (limit : Int), store.find path = .ok (.file bytes) →
      ((∃ report, validateFile keywords convention store path = .ok report ∧
          report.isValid = true) ↔
        ∃ edition, ((Cache.new (some limit) keywords convention.encoding).getOrLoad
          store path).2 = .ok edition) ∧
      (∀ report edition, validateFile keywords convention store path = .ok report →
        ((Cache.new (some limit) keywords convention.encoding).getOrLoad store path).2 =
          .ok edition → report.base = some edition.base) ∧
      ∀ code fault, FileStore.encodingOf convention.encoding = .ok code →
        code.readText bytes = .error fault →
          (∀ edition, ((Cache.new (some limit) keywords convention.encoding).getOrLoad
            store path).2 ≠ .ok edition) ∧
          match fault with
          | .invalid _ _ =>
            ∃ report finding, validateFile keywords convention store path = .ok report ∧
              report.isValid = false ∧ report.errors = [finding] ∧ finding.severity = .error
          | .unfit message =>
            validateFile keywords convention store path = .error (.file (.unfit message)) := by
  refine ⟨fun text source => exists_describes source, ?_⟩
  intro convention store path bytes limit hfind
  have hfile : store.readBytes path = .ok bytes := FileStore.readBytes_eq_ok_iff.2 hfind
  refine ⟨⟨?valid, ?loaded⟩, ?base, fun code fault hcode hdecode => ⟨?unloaded, ?undecoded⟩⟩
  case valid =>
    rintro ⟨report, hreport, hvalid⟩
    obtain ⟨base, hfetch⟩ := exists_fetchBase_of_isValid hfile hreport hvalid
    obtain ⟨edition, hedition, -⟩ := (exists_getOrLoad_new_iff limit).2 hfetch
    exact ⟨edition, hedition⟩
  case loaded =>
    rintro ⟨edition, hedition⟩
    have hfetch := (exists_getOrLoad_new_iff limit).1 ⟨edition, hedition, rfl⟩
    obtain ⟨report, hreport, hvalid, -⟩ := validateFile_of_fetchBase hfetch
    exact ⟨report, hreport, hvalid⟩
  case base =>
    intro report edition hreport hedition
    have hfetch := (exists_getOrLoad_new_iff limit).1 ⟨edition, hedition, rfl⟩
    obtain ⟨described, hdescribed, -, hbase⟩ := validateFile_of_fetchBase hfetch
    cases hreport.symm.trans hdescribed
    exact hbase
  case unloaded =>
    -- What a cache loads has a text.
    intro edition hedition
    have hfetch := (exists_getOrLoad_new_iff limit).1 ⟨edition, hedition, rfl⟩
    rw [fetchBase_of_readBytes hfile, readText_of_decode_eq_error hfile hcode hdecode] at hfetch
    cases hfetch
  case undecoded =>
    cases fault with
    | invalid => exact validateFile_of_invalid hfile hcode hdecode
    | unfit => exact validateFile_of_unfit hfile hcode hdecode

/-- A rule in ASCII. -/
def asciiRule : List UInt8 := asciiBytes "1 if a-b then c-d"

/-- The beginning of that rule in UTF-16, without a mark. -/
def unmarkedBytes : List UInt8 := [0x31, 0x00, 0x20, 0x00]

/-- Files with that rule, with its beginning in UTF-16, and with a byte that is not in UTF-8; none
of them is named as expected. -/
def notesStore : FileStore :=
  ⟨.ofList [(["good.txt"], .file asciiRule), (["wide.txt"], .file unmarkedBytes),
    (["bad.txt"], .file [0xFF])], []⟩

open Usual in
theorem validation_agrees_notesStore :
    (∃ report, validateText numberedKeywords "1 if a-b then c-d" "" = .ok report ∧
      report.Describes numberedKeywords "1 if a-b then c-d") ∧
    (∃ report, validateFile numberedKeywords .standard notesStore ⟨"", ["good.txt"]⟩ = .ok report ∧
      report.isValid = true) ∧
    (∃ report, validateFile numberedKeywords .standard notesStore ⟨"", ["bad.txt"]⟩ = .ok report ∧
      report.isValid = false) ∧
    validateFile numberedKeywords ⟨.text "utf-16", .text ".kb"⟩ notesStore ⟨"", ["wide.txt"]⟩ =
      .error (.file (.unfit "UTF-16 stream does not start with BOM")) := by
  obtain ⟨htexts, hfiles⟩ := validation_agrees numberedKeywords
  obtain ⟨base, hload⟩ := exists_ok_of_isSome (show
    (loadBase numberedKeywords "1 if a-b then c-d").toOption.isSome = true by decide +kernel)
  obtain ⟨hvalid, -, -⟩ := hfiles .standard notesStore ⟨"", ["good.txt"]⟩ asciiRule 50 rfl
  obtain ⟨-, -, hundecodable⟩ := hfiles .standard notesStore ⟨"", ["bad.txt"]⟩ [0xFF] 50 rfl
  obtain ⟨-, -, hunfit⟩ :=
    hfiles ⟨.text "utf-16", .text ".kb"⟩ notesStore ⟨"", ["wide.txt"]⟩ unmarkedBytes 50 rfl
  refine ⟨htexts _ _ fun fault => by rw [hload]; exact nofun, hvalid.2 ?_, ?_, ?_⟩
  · -- The file holds the text, so a cache loads it.
    have hfetch : fetchBase numberedKeywords (.text "utf-8") notesStore ⟨"", ["good.txt"]⟩ =
        .ok base :=
      fetchBase_eq_ok_iff.2 ⟨asciiRule, rfl, .utf8, _, FileStore.encodingOf_utf8, rfl, hload⟩
    obtain ⟨edition, hedition, -⟩ := (exists_getOrLoad_new_iff 50).2 hfetch
    exact ⟨edition, hedition⟩
  · obtain ⟨-, report, finding, hreport, hinvalid, -⟩ :=
      hundecodable .utf8 _ FileStore.encodingOf_utf8 rfl
    exact ⟨report, hreport, hinvalid⟩
  · exact (hunfit .utf16 _ FileStore.encodingOf_utf16 rfl).2

open Usual in
/-- A file that cannot be decoded, as it has no byte order mark. There is no report that says so. -/
theorem validateFile_unmarked_breaks :
    let convention : Convention := ⟨.text "utf-16", .text ".kb"⟩
    (∃ code fault, FileStore.encodingOf convention.encoding = .ok code ∧
      code.readText unmarkedBytes = .error fault) ∧
    notesStore.find ⟨"", ["wide.txt"]⟩ = .ok (.file unmarkedBytes) ∧
    ∀ report, validateFile numberedKeywords convention notesStore ⟨"", ["wide.txt"]⟩ ≠
      .ok report := by
  have hcode := FileStore.encodingOf_utf16
  refine ⟨⟨.utf16, _, hcode, rfl⟩, rfl, fun report hreport => ?_⟩
  have hunfit : validateFile numberedKeywords ⟨.text "utf-16", .text ".kb"⟩ notesStore
      ⟨"", ["wide.txt"]⟩ = .error (.file (.unfit "UTF-16 stream does not start with BOM")) :=
    validateFile_of_unfit rfl hcode rfl
  cases hreport.symm.trans hunfit

end RuleConsult
