import Boxui.Core.Backup
import Boxui.Library.GoStrings

/-! Restoring a backup: the archive is read and checked before the first file is touched, the
files it replaces are copied, and the database is put back when the config cannot be restored. -/
namespace Boxui.Core
open GoValue

def maxBackupEntryBytes : Nat := 512 <<< 20

/-- The operations of a restore that can fail. A copy of an existing file is one operation. -/
inductive RestoreStep where
  | openArchive
  | validate
  | mkdirData
  | readDatabase
  | preserveDatabase
  | replaceDatabase (step : FileStep)
  | readConfig
  | preserveConfig
  | replaceConfig (step : FileStep)
  | rollback (step : FileStep)
  deriving DecidableEq

variable (format : BackupFormat)

/-- One round of the loop over the entries of the tar. -/
def readEntry (entries : GoMap Bytes) (entry : TarEntry) : Except String (GoMap Bytes) :=
  if !(backupNames.contains entry.name) || entry.typeflag ≠ .regular ||
      maxBackupEntryBytes < entry.size then .error "invalid backup entry"
  else
    match entry.content with
    | none => .error "read backup entry"
    | some content =>
      let data := content.take (maxBackupEntryBytes + 1)
      if maxBackupEntryBytes < data.length then .error "backup entry is too large"
      else .ok (entries.insert entry.name data)

def readValidatedTar (tar : List TarEntry × Bool) : Except String (GoMap Bytes) := do
  let entries ← tar.1.foldlM readEntry ∅
  if !tar.2 then throw "read backup archive"
  if (entries[backupManifestName]?.getD []).isEmpty then throw "backup manifest is missing"
  return entries

def loadBackupArchive (fails : RestoreStep → Bool) (archive : Option Bytes) :
    Except String (GoMap Bytes × BackupManifest) := do
  if fails .openArchive then throw "open backup"
  let some archive := archive | throw "open backup"
  let some tar := format.unpack archive | throw "open backup gzip"
  let entries ← readValidatedTar tar
  let some manifest := format.decodeManifest (entries[backupManifestName]?.getD [])
    | throw "decode backup manifest"
  if manifest.formatVersion ≠ backupFormatVersion then throw "unsupported backup format version"
  return (entries, manifest)

/-- Which of several faulty entries the error names depends on the order of the map in the
source; here it is the first. -/
def verifyBackupChecksums (entries : GoMap Bytes) (manifest : BackupManifest) :
    Except String Unit :=
  manifest.checksums.toList.forM fun (name, expected) =>
    match entries[name]? with
    | none => throw ("backup entry " ++ name.quote ++ " is missing")
    | some data =>
      if format.checksum data ≠ expected then
        throw ("backup entry " ++ name.quote ++ " checksum mismatch")
      else return ()

def validateDatabaseSnapshot (fails : RestoreStep → Bool) (data : Bytes) : Except String Unit :=
  if fails .validate then throw "write database validation snapshot"
  else if !format.opens data then throw "validate database snapshot"
  else return ()

variable {δ : Type*}

def preservedPath (path : Path δ) (stamp : String) : Path δ :=
  { path with base := path.base ++ ".pre-restore-" ++ stamp }

/-- No copy has the name of the database. -/
theorem database_ne_preservedPath (dataDir : δ) (path : Path δ) (stamp : String) :
    (⟨dataDir, "boxd.db"⟩ : Path δ) ≠ preservedPath path stamp := by
  intro h
  have hlength := congrArg (fun p : Path δ => p.base.length) h
  simp only [preservedPath, String.length_append] at hlength
  have hdatabase : "boxd.db".length = 7 := by decide
  have hmark : ".pre-restore-".length = 13 := by decide
  omega

variable [DecidableEq δ]

def preserveRestoreCopy (fails : Bool) (path : Path δ) (stamp : String) (previous : Option Bytes)
    (disk : Disk δ) : Disk δ × Except FileStep Unit :=
  match previous with
  | none => (disk, .ok ())
  | some data =>
    if fails then (disk, .error .write)
    else (disk.writeFile (preservedPath path stamp) data, .ok ())

/-- The deferred removal of the temporary file finds none after the rename. -/
def atomicReplaceFile (fails : FileStep → Bool) (path : Path δ) (data : Bytes) (disk : Disk δ) :
    Disk δ × Except FileStep Unit :=
  if fails .mkdirAll then (disk, .error .mkdirAll)
  else if fails .createTemp then (disk, .error .createTemp)
  else
    let disk := disk.createTemp
    if fails .chmod then (disk.removeTemp, .error .chmod)
    else if fails .write then (disk.removeTemp, .error .write)
    else
      let disk := disk.writeTemp data
      if fails .sync then (disk.removeTemp, .error .sync)
      else if fails .close then (disk.removeTemp, .error .close)
      else if fails .rename then (disk.removeTemp, .error .rename)
      else ((disk.renameTemp path).removeTemp, .ok ())

/-- The result of a rollback is not looked at. -/
def rollbackFile (fails : FileStep → Bool) (path : Path δ) (previous : Option Bytes)
    (disk : Disk δ) : Disk δ :=
  match previous with
  | none => if fails .remove then disk else disk.remove path
  | some data => (atomicReplaceFile fails path data disk).1

/-- The part of a restore before the first file is touched. -/
def checkedBackup (fails : RestoreStep → Bool) (archive : Option Bytes) :
    Except String (Bytes × Option Bytes) := do
  let (entries, manifest) ← loadBackupArchive format fails archive
  verifyBackupChecksums format entries manifest
  let some database := entries[backupDatabaseName]? | throw "backup database is missing"
  validateDatabaseSnapshot format fails database
  return (database, entries[backupConfigName]?)

/-- The config of a restore, which puts the database back when it fails. -/
def restoreConfig (fails : RestoreStep → Bool) (stamp : String) (databasePath configPath : Path δ)
    (previousDatabase : Option Bytes) (config : Bytes) (disk : Disk δ) :
    Disk δ × Except String Unit :=
  let rollback := rollbackFile (fun step => fails (.rollback step)) databasePath previousDatabase
  match readOptionalFile (fun _ => fails .readConfig) configPath disk with
  | .error _ => (rollback disk, .error "read existing kernel config")
  | .ok previousConfig =>
    match preserveRestoreCopy (fails .preserveConfig) configPath stamp previousConfig disk with
    | (disk, .error _) => (rollback disk, .error "preserve existing kernel config")
    | (disk, .ok ()) =>
      match atomicReplaceFile (fun step => fails (.replaceConfig step)) configPath config disk with
      | (disk, .error _) => (rollback disk, .error "restore kernel config")
      | (disk, .ok ()) => (disk, .ok ())

/-- `stamps` are the times of the two copies as their names have them. -/
def restoreBackup (fails : RestoreStep → Bool) (stamps : String × String)
    (archivePath : Path δ) (dataDir : δ) (configPath : Path δ) (disk : Disk δ) :
    Disk δ × Except String Unit :=
  match checkedBackup format fails (disk.files archivePath) with
  | .error message => (disk, .error message)
  | .ok (database, config) =>
    if fails .mkdirData then (disk, .error "create data directory")
    else
      let databasePath : Path δ := ⟨dataDir, "boxd.db"⟩
      match readOptionalFile (fun _ => fails .readDatabase) databasePath disk with
      | .error _ => (disk, .error "read existing database")
      | .ok previousDatabase =>
        match preserveRestoreCopy (fails .preserveDatabase) databasePath stamps.1 previousDatabase
            disk with
        | (disk, .error _) => (disk, .error "preserve existing database")
        | (disk, .ok ()) =>
          match atomicReplaceFile (fun step => fails (.replaceDatabase step)) databasePath database
              disk with
          | (disk, .error _) => (disk, .error "restore database")
          | (disk, .ok ()) =>
            match config with
            | none => (disk, .ok ())
            | some config =>
              restoreConfig fails stamps.2 databasePath configPath previousDatabase config disk

theorem readEntry_tarFile {file : String × Bytes} (hname : file.1 ∈ backupNames)
    (entries : GoMap Bytes) :
    readEntry entries (tarFile file) =
      if file.2.length ≤ maxBackupEntryBytes then .ok (entries.insert file.1 file.2)
      else .error "invalid backup entry" := by
  unfold readEntry tarFile
  by_cases hsize : file.2.length ≤ maxBackupEntryBytes
  · have htake : file.2.take (maxBackupEntryBytes + 1) = file.2 :=
      List.take_of_length_le (Nat.le_succ_of_le hsize)
    simp [hname, Nat.not_lt.mpr hsize, hsize, htake]
  · simp [hsize]

/-- The loop over the entries of files that the writer names. -/
theorem readEntries_tarFile {files : List (String × Bytes)}
    (hnames : ∀ file ∈ files, file.1 ∈ backupNames) (entries : GoMap Bytes) :
    (files.map tarFile).foldlM readEntry entries =
      if ∀ file ∈ files, file.2.length ≤ maxBackupEntryBytes then
        .ok (files.foldl (fun entries file => entries.insert file.1 file.2) entries)
      else .error "invalid backup entry" := by
  induction files generalizing entries with
  | nil => simp [pure, Except.pure]
  | cons file files ih =>
    obtain ⟨hname, hrest⟩ := List.forall_mem_cons.mp hnames
    rw [List.map_cons, List.foldlM_cons, readEntry_tarFile hname]
    by_cases hsize : file.2.length ≤ maxBackupEntryBytes
    · simp only [hsize, if_true, bind, Except.bind, ih hrest, List.forall_mem_cons, true_and,
        List.foldl_cons]
    · simp [hsize, bind, Except.bind]

theorem backupFiles_names {database : Bytes} {config : Option Bytes} {manifest : Bytes} :
    ∀ file ∈ backupFiles database config manifest, file.1 ∈ backupNames := by
  cases config <;> simp [backupFiles, backupNames]

theorem foldl_backupFiles (database : Bytes) (config : Option Bytes) (manifest : Bytes) :
    (backupFiles database config manifest).foldl
      (fun entries file => entries.insert file.1 file.2) ∅ =
        (backupContents database config).insert backupManifestName manifest := by
  cases config <;> rfl

/-- Every entry of the archive is within the limit of the reader. -/
def WithinLimit (database : Bytes) (config : Option Bytes) (manifest : Bytes) : Prop :=
  database.length ≤ maxBackupEntryBytes ∧ (∀ data, config = some data →
    data.length ≤ maxBackupEntryBytes) ∧ manifest.length ≤ maxBackupEntryBytes

instance (database : Bytes) (config : Option Bytes) (manifest : Bytes) :
    Decidable (WithinLimit database config manifest) :=
  inferInstanceAs (Decidable (_ ∧ _ ∧ _))

theorem forall_mem_backupFiles {database : Bytes} {config : Option Bytes} {manifest : Bytes} :
    (∀ file ∈ backupFiles database config manifest, file.2.length ≤ maxBackupEntryBytes) ↔
      WithinLimit database config manifest := by
  cases config <;> simp [backupFiles, WithinLimit]

section RoundTrip

variable {format} {database : Bytes} {config : Option Bytes} {version : String} {now : Nat}
  {manifestData : Bytes}

theorem readValidatedTar_backup (hmanifest : manifestData ≠ []) :
    readValidatedTar ((backupFiles database config manifestData).map tarFile, true) =
      if WithinLimit database config manifestData then
        .ok ((backupContents database config).insert backupManifestName manifestData)
      else .error "invalid backup entry" := by
  unfold readValidatedTar
  rw [readEntries_tarFile backupFiles_names, foldl_backupFiles]
  simp only [forall_mem_backupFiles]
  by_cases hlimit : WithinLimit database config manifestData
  · simp [hlimit, bind, Except.bind, pure, Except.pure, hmanifest]
  · simp [hlimit, bind, Except.bind]

theorem loadBackupArchive_backup (hformat : format.Lawful) {fails : RestoreStep → Bool}
    (hfails : fails .openArchive = false) {manifest : BackupManifest}
    (hversion : manifest.formatVersion = backupFormatVersion)
    (hmanifest : format.encodeManifest manifest = some manifestData) :
    loadBackupArchive format fails
      (some (format.pack (backupFiles database config manifestData))) =
      if WithinLimit database config manifestData then
        .ok ((backupContents database config).insert backupManifestName manifestData, manifest)
      else .error "invalid backup entry" := by
  obtain ⟨hne, hdecode⟩ := hformat.decode_encode _ _ hmanifest
  unfold loadBackupArchive
  simp only [hfails, hformat.unpack_pack _ backupFiles_names, readValidatedTar_backup hne,
    Bool.false_eq_true, if_false, bind, Except.bind, pure, Except.pure]
  by_cases hlimit : WithinLimit database config manifestData
  · simp [hlimit, hdecode, hversion]
  · simp [hlimit]

theorem forM_ok_iff {ε α : Type} {f : α → Except ε Unit} (l : List α) :
    l.forM f = .ok () ↔ ∀ x ∈ l, f x = .ok () := by
  induction l with
  | nil => exact ⟨fun _ x hx => absurd hx List.not_mem_nil, fun _ => rfl⟩
  | cons x l ih =>
    have hbind : (x :: l).forM f = .ok () ↔ f x = .ok () ∧ l.forM f = .ok () :=
      (bind_eq_ok_iff (f x) (fun _ => l.forM f) ()).trans
        ⟨fun ⟨_, hx, hrest⟩ => ⟨hx, hrest⟩, fun ⟨hx, hrest⟩ => ⟨(), hx, hrest⟩⟩
    rw [hbind, ih, List.forall_mem_cons]

/-- The checksums of some entries are met by every map that has these entries. -/
theorem verifyBackupChecksums_ok {entries entries' : GoMap Bytes} {manifest : BackupManifest}
    (hchecksums : manifest.checksums = backupChecksums format entries)
    (h : ∀ (name : String) data, entries[name]? = some data → entries'[name]? = some data) :
    verifyBackupChecksums format entries' manifest = .ok () := by
  refine (forM_ok_iff _).mpr fun x hx => ?_
  rw [hchecksums, Std.ExtTreeMap.mem_toList_iff_getElem?_eq_some, backupChecksums,
    Std.ExtTreeMap.getElem?_map, Option.map_eq_some_iff] at hx
  obtain ⟨data, hdata, hsum⟩ := hx
  simp only [h _ _ hdata, hsum, ne_eq, not_true_eq_false, if_false]
  rfl

/-- What a restore takes from the archive of a backup. -/
theorem checkedBackup_backup (hformat : format.Lawful) {fails : RestoreStep → Bool}
    (hfails : ∀ step, fails step = false) (hopens : format.opens database = true)
    (hmanifest : format.encodeManifest ⟨backupFormatVersion, version, now,
      backupChecksums format (backupContents database config)⟩ = some manifestData) :
    checkedBackup format fails
      (some (format.pack (backupFiles database config manifestData))) =
      if WithinLimit database config manifestData then .ok (database, config)
      else .error "invalid backup entry" := by
  unfold checkedBackup
  rw [loadBackupArchive_backup hformat (hfails _) rfl hmanifest]
  by_cases hlimit : WithinLimit database config manifestData
  · have hverify : verifyBackupChecksums format
        ((backupContents database config).insert backupManifestName manifestData)
        ⟨backupFormatVersion, version, now,
          backupChecksums format (backupContents database config)⟩ = .ok () := by
      refine verifyBackupChecksums_ok rfl fun name data hdata => ?_
      have hname : backupManifestName ≠ name := by
        rintro rfl
        cases config <;>
          simp [backupContents, backupManifestName, backupDatabaseName, backupConfigName] at hdata
      rw [GoMap.getElem?_insert, if_neg hname, hdata]
    have hdatabase : ((backupContents database config).insert backupManifestName
        manifestData)[backupDatabaseName]? = some database := by
      cases config <;> simp only [backupContents, GoMap.getElem?_insert] <;> rfl
    have hconfig : ((backupContents database config).insert backupManifestName
        manifestData)[backupConfigName]? = config := by
      cases config <;> simp only [backupContents, GoMap.getElem?_insert] <;> rfl
    simp only [hlimit, if_true, bind, Except.bind, hverify, hdatabase, validateDatabaseSnapshot,
      hfails, hopens, Bool.not_true, Bool.false_eq_true, if_false, pure, Except.pure, hconfig]
  · simp only [hlimit, if_false, bind, Except.bind]

end RoundTrip

theorem atomicReplaceFile_error {fails : FileStep → Bool} {path : Path δ} {data : Bytes}
    {disk disk' : Disk δ} {step : FileStep}
    (h : atomicReplaceFile fails path data disk = (disk', .error step)) :
    disk'.files = disk.files := by
  unfold atomicReplaceFile at h
  split_ifs at h <;> cases h <;> rfl

theorem atomicReplaceFile_ok {fails : FileStep → Bool} (hfails : ∀ step, fails step = false)
    (path : Path δ) (data : Bytes) (disk : Disk δ) :
    atomicReplaceFile fails path data disk =
      (⟨Function.update disk.files path (some data), none⟩, .ok ()) := by
  simp only [atomicReplaceFile, hfails, Bool.false_eq_true, if_false]
  rfl

/-- The files with a copy of the one at a path. -/
def preserved (path : Path δ) (stamp : String) (files : Path δ → Option Bytes) :
    Path δ → Option Bytes :=
  match files path with
  | none => files
  | some data => Function.update files (preservedPath path stamp) (some data)

theorem preserveRestoreCopy_ok (path : Path δ) (stamp : String) (disk : Disk δ) :
    preserveRestoreCopy false path stamp (disk.files path) disk =
      ({ disk with files := preserved path stamp disk.files }, .ok ()) := by
  unfold preserveRestoreCopy preserved
  cases disk.files path <;> rfl

theorem preserved_of_ne {path path' : Path δ} {stamp : String} {files : Path δ → Option Bytes}
    (h : files path = none ∨ path' ≠ preservedPath path stamp) :
    preserved path stamp files path' = files path' := by
  unfold preserved
  cases hpath : files path with
  | none => rfl
  | some data => exact Function.update_of_ne (h.resolve_left (by simp [hpath])) _ _

theorem restoreConfig_ok {fails : RestoreStep → Bool} (hfails : ∀ step, fails step = false)
    (stamp : String) (databasePath configPath : Path δ) (previousDatabase : Option Bytes)
    (config : Bytes) (disk : Disk δ) :
    restoreConfig fails stamp databasePath configPath previousDatabase config disk =
      (⟨Function.update (preserved configPath stamp disk.files) configPath (some config), none⟩,
        .ok ()) := by
  simp only [restoreConfig, readOptionalFile, hfails, Bool.false_eq_true, if_false,
    preserveRestoreCopy_ok, atomicReplaceFile_ok (fun _ => rfl)]

theorem restoreBackup_rejected {fails : RestoreStep → Bool} {archivePath : Path δ}
    {disk : Disk δ} {message : String}
    (h : checkedBackup format fails (disk.files archivePath) = .error message)
    (stamps : String × String) (dataDir : δ) (configPath : Path δ) :
    restoreBackup format fails stamps archivePath dataDir configPath disk =
      (disk, .error message) := by
  simp only [restoreBackup, h]

/-- What a restore without failing operations does to the files. -/
theorem restoreBackup_ok {fails : RestoreStep → Bool} (hfails : ∀ step, fails step = false)
    {stamps : String × String} {archivePath configPath : Path δ} {dataDir : δ} {disk : Disk δ}
    {database : Bytes} {config : Option Bytes}
    (h : checkedBackup format fails (disk.files archivePath) = .ok (database, config)) :
    (restoreBackup format fails stamps archivePath dataDir configPath disk).2 = .ok () ∧
      (restoreBackup format fails stamps archivePath dataDir configPath disk).1.files =
        let databasePath : Path δ := ⟨dataDir, "boxd.db"⟩
        let files := Function.update (preserved databasePath stamps.1 disk.files) databasePath
          (some database)
        config.elim files fun config =>
          Function.update (preserved configPath stamps.2 files) configPath (some config) := by
  unfold restoreBackup
  simp only [h, hfails, Bool.false_eq_true, if_false, readOptionalFile, preserveRestoreCopy_ok,
    atomicReplaceFile_ok (fun _ => rfl)]
  cases config with
  | none => exact ⟨rfl, rfl⟩
  | some config =>
    simp only [restoreConfig_ok hfails]
    exact ⟨trivial, rfl⟩

/-- An archive with a larger entry is refused before any file is touched. -/
theorem restoreBackup_overLimit {format : BackupFormat} (hformat : format.Lawful)
    {fails : RestoreStep → Bool} (hfails : ∀ step, fails step = false) {database : Bytes}
    (hopens : format.opens database = true) {config : Option Bytes} {version : String} {now : Nat}
    {manifestData : Bytes}
    (hmanifest : format.encodeManifest ⟨backupFormatVersion, version, now,
      backupChecksums format (backupContents database config)⟩ = some manifestData)
    (hlimit : ¬WithinLimit database config manifestData) {archivePath : Path δ} {disk : Disk δ}
    (harchive : disk.files archivePath =
      some (format.pack (backupFiles database config manifestData)))
    (stamps : String × String) (dataDir : δ) (configPath : Path δ) :
    restoreBackup format fails stamps archivePath dataDir configPath disk =
      (disk, .error "invalid backup entry") := by
  have hchecked := checkedBackup_backup hformat hfails hopens hmanifest
  rw [if_neg hlimit, ← harchive] at hchecked
  exact restoreBackup_rejected format hchecked stamps dataDir configPath

/-- A backup that reports success can be restored, into any data directory and config path, as
long as no entry of it is larger than the reader takes; the files are then those of the backup. -/
theorem restoreBackup_createBackup {format : BackupFormat} (hformat : format.Lawful)
    {createFails : FileStep → Bool} {database : Bytes} {sourceConfig outputPath : Path δ}
    {version : String} {now : Nat} {source : Disk δ}
    (hcreated : (createBackup format createFails (some database) sourceConfig outputPath version
      now source).2 = .ok ())
    (hopens : format.opens database = true) {fails : RestoreStep → Bool}
    (hfails : ∀ step, fails step = false) {target : Disk δ} {archivePath : Path δ}
    (harchive : target.files archivePath = (createBackup format createFails (some database)
      sourceConfig outputPath version now source).1.files outputPath)
    (stamps : String × String) (dataDir : δ) (configPath : Path δ) :
    let config := source.files sourceConfig
    let databasePath : Path δ := ⟨dataDir, "boxd.db"⟩
    let restored := restoreBackup format fails stamps archivePath dataDir configPath target
    ∃ manifest, format.encodeManifest ⟨backupFormatVersion, version, now,
        backupChecksums format (backupContents database config)⟩ = some manifest ∧
      (restored.2 = .ok () ↔ WithinLimit database config manifest) ∧
      (WithinLimit database config manifest → configPath ≠ databasePath →
        restored.1.files databasePath = some database ∧
        (config ≠ none → restored.1.files configPath = config) ∧
        (config = none →
          (target.files databasePath = none ∨ configPath ≠ preservedPath databasePath stamps.1) →
            restored.1.files configPath = target.files configPath)) := by
  obtain ⟨_, manifest, hsnapshot, hmanifest, hfiles⟩ := createBackup_ok format hcreated
  obtain rfl := Option.some.inj hsnapshot
  intro config databasePath restored
  have hchecked (hlimit : WithinLimit database config manifest) :
      checkedBackup format fails (target.files archivePath) = .ok (database, config) := by
    rw [harchive, hfiles, checkedBackup_backup hformat hfails hopens hmanifest, if_pos hlimit]
  refine ⟨manifest, hmanifest, ⟨fun hok => ?_, fun hlimit => ?_⟩, fun hlimit hpath => ?_⟩
  · by_contra hlimit
    simp only [restored, restoreBackup_overLimit hformat hfails hopens hmanifest hlimit
      (harchive.trans hfiles)] at hok
    cases hok
  · exact (restoreBackup_ok format hfails (hchecked hlimit)).1
  · have hrestored : restored.1.files = _ := (restoreBackup_ok format hfails (hchecked hlimit)).2
    have hdatabase := database_ne_preservedPath dataDir configPath stamps.2
    rw [hrestored]
    cases hconfig : source.files sourceConfig with
    | none =>
      simp only [config, hconfig, Option.elim_none]
      refine ⟨Function.update_self _ _ _, fun hne => absurd rfl hne, fun _ hcopy => ?_⟩
      rw [Function.update_of_ne hpath, preserved_of_ne hcopy]
    | some data =>
      simp only [config, hconfig, Option.elim_some]
      refine ⟨?_, fun _ => Function.update_self _ _ _, fun hnone => by cases hnone⟩
      rw [Function.update_of_ne hpath.symm, preserved_of_ne (.inr hdatabase),
        Function.update_self]

/-- What a rollback without failing operations leaves at its path. -/
theorem rollbackFile_files {fails : FileStep → Bool} (hfails : ∀ step, fails step = false)
    (path : Path δ) (previous : Option Bytes) (disk : Disk δ) :
    (rollbackFile fails path previous disk).files path = previous := by
  cases previous with
  | none => simp [rollbackFile, hfails]
  | some data => simp [rollbackFile, atomicReplaceFile_ok hfails]

theorem preserveRestoreCopy_files (fails : Bool) {path path' : Path δ} {stamp : String}
    (hne : path' ≠ preservedPath path stamp) (previous : Option Bytes) (disk : Disk δ) :
    (preserveRestoreCopy fails path stamp previous disk).1.files path' = disk.files path' := by
  unfold preserveRestoreCopy
  cases previous with
  | none => rfl
  | some data =>
    cases fails with
    | true => rfl
    | false => exact Function.update_of_ne hne _ _

theorem restoreConfig_error {fails : RestoreStep → Bool}
    (hrollback : ∀ step, fails (.rollback step) = false) {stamp : String}
    {databasePath configPath : Path δ} {previousDatabase : Option Bytes} {config : Bytes}
    {disk : Disk δ} {message : String}
    (h : (restoreConfig fails stamp databasePath configPath previousDatabase config disk).2 =
      .error message) :
    (restoreConfig fails stamp databasePath configPath previousDatabase config disk).1.files
      databasePath = previousDatabase := by
  unfold restoreConfig at h ⊢
  dsimp only at h ⊢
  split at h
  · exact rollbackFile_files hrollback _ _ _
  · split at h
    · exact rollbackFile_files hrollback _ _ _
    · split at h
      · exact rollbackFile_files hrollback _ _ _
      · cases h

/-- A restore that fails leaves the database as it was, as long as its rollback works. -/
theorem restoreBackup_error {fails : RestoreStep → Bool}
    (hrollback : ∀ step, fails (.rollback step) = false) {stamps : String × String}
    {archivePath configPath : Path δ} {dataDir : δ} {disk : Disk δ} {message : String}
    (h : (restoreBackup format fails stamps archivePath dataDir configPath disk).2 =
      .error message) :
    (restoreBackup format fails stamps archivePath dataDir configPath disk).1.files
      ⟨dataDir, "boxd.db"⟩ = disk.files ⟨dataDir, "boxd.db"⟩ := by
  have hcopy (previous : Option Bytes) := preserveRestoreCopy_files (fails .preserveDatabase)
    (database_ne_preservedPath dataDir ⟨dataDir, "boxd.db"⟩ stamps.1) previous disk
  unfold restoreBackup at h ⊢
  dsimp only at h ⊢
  split at h
  · rfl
  · split_ifs at h ⊢
    · rfl
    · split at h
      · rfl
      · next previous hread =>
        have hprevious : previous = disk.files ⟨dataDir, "boxd.db"⟩ := by
          unfold readOptionalFile at hread
          split_ifs at hread
          exact (Except.ok.inj hread).symm
        specialize hcopy previous
        split at h
        · next kept _ hpreserve =>
          simpa only [hpreserve] using hcopy
        · next kept hpreserve =>
          rw [hpreserve] at hcopy
          split at h
          · next hreplace => rw [atomicReplaceFile_error hreplace, hcopy]
          · split at h
            · cases h
            · exact (restoreConfig_error hrollback h).trans hprevious

/-- A plain archive format: every byte is escaped, and every byte string ended. -/
def frame (chunk : Bytes) : Bytes := chunk.flatMap (fun b => [0, b]) ++ [1]

def unframe (chunk : Bytes) : Bytes → List Bytes
  | 1 :: rest => chunk :: unframe [] rest
  | _ :: b :: rest => unframe (chunk ++ [b]) rest
  | _ => []

theorem unframe_frame (chunk before rest : Bytes) :
    unframe before (frame chunk ++ rest) = (before ++ chunk) :: unframe [] rest := by
  induction chunk generalizing before with
  | nil => simp [frame, unframe]
  | cons b chunk ih =>
    have h := ih (before ++ [b])
    simp only [List.append_assoc, List.singleton_append] at h
    rw [← h]
    simp [frame, unframe]

theorem unframe_frames (chunks : List Bytes) : unframe [] (chunks.flatMap frame) = chunks := by
  induction chunks with
  | nil => rfl
  | cons chunk chunks ih => rw [List.flatMap_cons, unframe_frame, ih, List.nil_append]

def unframedFiles : List Bytes → List (String × Bytes)
  | name :: data :: rest => (backupNames[(name.headD 0).toNat]?.getD "", data) :: unframedFiles rest
  | _ => []

theorem unframedFiles_framed {files : List (String × Bytes)}
    (h : ∀ file ∈ files, file.1 ∈ backupNames) :
    unframedFiles (files.flatMap fun file => [[UInt8.ofNat (backupNames.idxOf file.1)], file.2]) =
      files := by
  induction files with
  | nil => rfl
  | cons file files ih =>
    obtain ⟨hfile, hrest⟩ := List.forall_mem_cons.mp h
    obtain ⟨name, data⟩ := file
    simp only [List.flatMap_cons, List.cons_append, List.nil_append, unframedFiles, ih hrest]
    simp only [backupNames, List.mem_cons, List.not_mem_nil, or_false] at hfile
    rcases hfile with rfl | rfl | rfl <;> rfl

def string (data : Bytes) : String := (String.fromUTF8? ⟨data.toArray⟩).getD ""

theorem string_bytes (s : String) : string (GoStrings.bytes s) = s := by
  have hbytes : (⟨(GoStrings.bytes s).toArray⟩ : ByteArray) = s.toUTF8 := by
    rw [GoStrings.bytes, Array.toArray_toList]
  have hdecode : String.fromUTF8? s.toUTF8 = some s := dif_pos s.isValidUTF8
  rw [string, hbytes, hdecode, Option.getD_some]

def unframedPairs : List Bytes → List (String × String)
  | name :: value :: rest => (string name, string value) :: unframedPairs rest
  | _ => []

theorem unframedPairs_framed (pairs : List (String × String)) :
    unframedPairs (pairs.flatMap fun p => [GoStrings.bytes p.1, GoStrings.bytes p.2]) = pairs := by
  induction pairs with
  | nil => rfl
  | cons p pairs ih =>
    simp only [List.flatMap_cons, List.cons_append, List.nil_append, unframedPairs, ih,
      string_bytes]

def plainFormat : BackupFormat where
  pack files :=
    (files.flatMap fun file => [[UInt8.ofNat (backupNames.idxOf file.1)], file.2]).flatMap frame
  unpack archive := some ((unframedFiles (unframe [] archive)).map tarFile, true)
  encodeManifest manifest := some <| List.flatMap frame <|
    List.replicate manifest.formatVersion 0 :: GoStrings.bytes manifest.appVersion ::
      List.replicate manifest.createdAt 0 ::
      manifest.checksums.toList.flatMap fun p => [GoStrings.bytes p.1, GoStrings.bytes p.2]
  decodeManifest data :=
    match unframe [] data with
    | version :: app :: created :: sums =>
      some ⟨version.length, string app, created.length, .ofList (unframedPairs sums) compare⟩
    | _ => none
  checksum data := String.ofList (data.map fun b => Char.ofNat b.toNat)
  opens data := !data.isEmpty

theorem plainFormat_lawful : plainFormat.Lawful where
  unpack_pack files hnames := by
    simp only [plainFormat, unframe_frames, unframedFiles_framed hnames]
  decode_encode manifest data hdata := by
    obtain rfl := Option.some.inj hdata
    refine ⟨by simp [frame], ?_⟩
    simp only [plainFormat, unframe_frames, unframedPairs_framed, string_bytes,
      List.length_replicate, GoMap.ofList_toList]

def kernelConfig : Path String := ⟨"/etc/sing-box", "config.json"⟩

def backupPath : Path String := ⟨"/var/backups", "boxd.tar.gz"⟩

def sourceDisk (config : Option Bytes) : Disk String :=
  ⟨fun path => if path = kernelConfig then config else none, none⟩

/-- The disk after a backup of the database `[1]` and a config. -/
def backedUp (config : Option Bytes) : Disk String × Except String Unit :=
  createBackup plainFormat (fun _ => false) (some [1]) kernelConfig backupPath "test" 0
    (sourceDisk config)

def restoredTo (configPath : Path String) (disk : Disk String) : Disk String × Except String Unit :=
  restoreBackup plainFormat (fun _ => false) ("20260101T000000Z", "20260101T000000Z") backupPath
    "/var/lib/boxd" configPath disk

theorem smallConfig_restored :
    let restored := restoredTo ⟨"/new", "config.json"⟩ (backedUp (some [123, 125])).1
    restored.2 = .ok () ∧ restored.1.files ⟨"/var/lib/boxd", "boxd.db"⟩ = some [1] ∧
      restored.1.files ⟨"/new", "config.json"⟩ = some [123, 125] := by
  intro restored
  obtain ⟨manifest, hmanifest, hok, hfiles⟩ := @restoreBackup_createBackup String _ plainFormat
    plainFormat_lawful (fun _ => false) [1] kernelConfig backupPath "test" 0
    (sourceDisk (some [123, 125])) rfl rfl (fun _ => false) (fun _ => rfl)
    (backedUp (some [123, 125])).1 backupPath rfl ("20260101T000000Z", "20260101T000000Z")
    "/var/lib/boxd" ⟨"/new", "config.json"⟩
  have hlength : manifest.length ≤ maxBackupEntryBytes := by
    rw [← Option.some.inj hmanifest]
    decide
  have hlimit : WithinLimit [1] (some [123, 125]) manifest := by
    refine ⟨by decide, fun data hdata => ?_, hlength⟩
    obtain rfl := Option.some.inj hdata
    decide
  obtain ⟨hdatabase, hconfig, -⟩ := hfiles hlimit (by decide)
  exact ⟨hok.mpr hlimit, hdatabase, hconfig (by decide)⟩

theorem largeConfig_rejected {config : Bytes} (h : maxBackupEntryBytes < config.length)
    (configPath : Path String) :
    (backedUp (some config)).2 = .ok () ∧
      (restoredTo configPath (backedUp (some config)).1).2 = .error "invalid backup entry" := by
  refine ⟨rfl, ?_⟩
  have hlimit (manifest : Bytes) : ¬WithinLimit [1] (some config) manifest :=
    fun hlimit => absurd (hlimit.2.1 config rfl) (Nat.not_le.mpr h)
  rw [restoredTo, @restoreBackup_overLimit String _ plainFormat plainFormat_lawful _ (fun _ => rfl)
    [1] rfl (some config) "test" 0 _ rfl (hlimit _) backupPath _ rfl]

/-- A config one byte larger than the reader takes is backed up and not restored. A restore whose
config path is the database file leaves the config there, and one without a config whose config
path is the copy of an older database leaves that copy there. -/
theorem backup_notRestored :
    let large := backedUp (some (List.replicate (maxBackupEntryBytes + 1) 0))
    let small := backedUp (some [123, 125])
    let databasePath : Path String := ⟨"/var/lib/boxd", "boxd.db"⟩
    let copyPath := preservedPath databasePath "20260101T000000Z"
    let older := (backedUp none).1.writeFile databasePath [2]
    large.2 = .ok () ∧
      (restoredTo kernelConfig large.1).2 = .error "invalid backup entry" ∧
      small.2 = .ok () ∧
      (restoredTo databasePath small.1).1.files databasePath = some [123, 125] ∧
      (restoredTo copyPath older).1.files copyPath = some [2] ∧ older.files copyPath = none := by
  intro large small databasePath copyPath older
  have hlength : maxBackupEntryBytes <
      (List.replicate (maxBackupEntryBytes + 1) (0 : UInt8)).length := by
    rw [List.length_replicate]
    exact Nat.lt_succ_self _
  obtain ⟨hcreated, hrejected⟩ := largeConfig_rejected hlength kernelConfig
  exact ⟨hcreated, hrejected, rfl, by decide, by decide, by decide⟩

end Boxui.Core
