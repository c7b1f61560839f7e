import Boxui.Core.Restore

/-! What a restore that fails leaves behind, and what one that succeeds has checked. -/
namespace Boxui.Core
open GoValue

section failure

variable {δ : Type*}

theorem ne_preservedPath (path : Path δ) (stamp : String) : path ≠ preservedPath path stamp := by
  intro h
  have hlength := congrArg (fun p : Path δ => p.base.length) h
  simp only [preservedPath, String.length_append] at hlength
  have hmark : ".pre-restore-".length = 13 := by decide
  omega

theorem readOptionalFile_ok {fails : FileStep → Bool} {path : Path δ} {disk : Disk δ}
    {previous : Option Bytes} (h : readOptionalFile fails path disk = .ok previous) :
    previous = disk.files path := by
  unfold readOptionalFile at h
  split_ifs at h
  exact (Except.ok.inj h).symm

variable [DecidableEq δ]

theorem atomicReplaceFile_files_of_ne (fails : FileStep → Bool) {path path' : Path δ}
    (hne : path' ≠ path) (data : Bytes) (disk : Disk δ) :
    (atomicReplaceFile fails path data disk).1.files path' = disk.files path' := by
  unfold atomicReplaceFile
  split_ifs <;> first | rfl | exact Function.update_of_ne hne _ _

/-- A rollback touches its own path only. -/
theorem rollbackFile_files_of_ne (fails : FileStep → Bool) {path path' : Path δ}
    (hne : path' ≠ path) (previous : Option Bytes) (disk : Disk δ) :
    (rollbackFile fails path previous disk).files path' = disk.files path' := by
  cases previous with
  | none =>
    unfold rollbackFile
    dsimp only
    split_ifs
    · rfl
    · exact Function.update_of_ne hne _ _
  | some data => exact atomicReplaceFile_files_of_ne fails hne data disk

/-- The second half of a restore leaves the config alone when it fails. -/
theorem restoreConfig_error_config {fails : RestoreStep → Bool} {stamp : String}
    {databasePath configPath : Path δ} (hne : configPath ≠ databasePath)
    {previousDatabase : Option Bytes} {config : Bytes} {disk : Disk δ} {message : String}
    (h : (restoreConfig fails stamp databasePath configPath previousDatabase config disk).2 =
      .error message) :
    (restoreConfig fails stamp databasePath configPath previousDatabase config disk).1.files
      configPath = disk.files configPath := by
  have hcopy (previous : Option Bytes) := preserveRestoreCopy_files (fails .preserveConfig)
    (ne_preservedPath configPath stamp) previous disk
  unfold restoreConfig at h ⊢
  dsimp only at h ⊢
  split at h
  · exact rollbackFile_files_of_ne _ hne _ _
  · next previous _ =>
    specialize hcopy previous
    split at h
    · next kept _ hpreserve =>
      rw [hpreserve] at hcopy
      exact (rollbackFile_files_of_ne _ hne _ _).trans hcopy
    · next kept hpreserve =>
      rw [hpreserve] at hcopy
      split at h
      · next hreplace =>
        rw [rollbackFile_files_of_ne _ hne, atomicReplaceFile_error hreplace]
        exact hcopy
      · cases h

variable (format : BackupFormat)

theorem restoreBackup_error_config {fails : RestoreStep → Bool} {stamps : String × String}
    {archivePath configPath : Path δ} {dataDir : δ} (hne : configPath ≠ ⟨dataDir, "boxd.db"⟩)
    {disk : Disk δ} (hcopied : disk.files ⟨dataDir, "boxd.db"⟩ = none ∨
      configPath ≠ preservedPath ⟨dataDir, "boxd.db"⟩ stamps.1) {message : String}
    (h : (restoreBackup format fails stamps archivePath dataDir configPath disk).2 =
      .error message) :
    (restoreBackup format fails stamps archivePath dataDir configPath disk).1.files configPath =
      disk.files configPath := by
  unfold restoreBackup at h ⊢
  dsimp only at h ⊢
  split at h
  · rfl
  · split_ifs at h ⊢
    · rfl
    · split at h
      · rfl
      · next previous hread =>
        have hcopy : (preserveRestoreCopy (fails .preserveDatabase) ⟨dataDir, "boxd.db"⟩ stamps.1
            previous disk).1.files configPath = disk.files configPath := by
          rcases hcopied with hnone | hpath
          · rw [readOptionalFile_ok hread, hnone]
            rfl
          · exact preserveRestoreCopy_files _ hpath previous disk
        split at h
        · next hpreserve =>
          rw [hpreserve] at hcopy
          exact hcopy
        · next kept hpreserve =>
          rw [hpreserve] at hcopy
          split at h
          · next hreplace =>
            rw [atomicReplaceFile_error hreplace]
            exact hcopy
          · next hreplace =>
            have hreplaced := congrArg (fun result => result.1.files configPath) hreplace
            dsimp only at hreplaced
            rw [atomicReplaceFile_files_of_ne _ hne, hcopy] at hreplaced
            split at h
            · cases h
            · rw [restoreConfig_error_config hne h]
              exact hreplaced.symm

/-- A restore that fails leaves both files as they were, as long as its rollback works and the
config is not where the copy of an existing database goes. -/
theorem restoreBackup_atomic {fails : RestoreStep → Bool}
    (hrollback : ∀ step, fails (.rollback step) = false) {stamps : String × String}
    {archivePath configPath : Path δ} {dataDir : δ} {disk : Disk δ}
    (hcopied : disk.files ⟨dataDir, "boxd.db"⟩ = none ∨
      configPath ≠ preservedPath ⟨dataDir, "boxd.db"⟩ stamps.1) {message : String}
    (h : (restoreBackup format fails stamps archivePath dataDir configPath disk).2 =
      .error message) :
    (restoreBackup format fails stamps archivePath dataDir configPath disk).1.files
        ⟨dataDir, "boxd.db"⟩ = disk.files ⟨dataDir, "boxd.db"⟩ ∧
      (restoreBackup format fails stamps archivePath dataDir configPath disk).1.files configPath =
        disk.files configPath := by
  have hdatabase := restoreBackup_error format hrollback h
  refine ⟨hdatabase, ?_⟩
  by_cases hne : configPath = ⟨dataDir, "boxd.db"⟩
  · rw [hne] at hdatabase ⊢
    exact hdatabase
  · exact restoreBackup_error_config format hne hcopied h

end failure

/-- A restore that fails at one operation. -/
def failedRestore (step : RestoreStep) (configPath : Path String) (disk : Disk String) :
    Disk String × Except String Unit :=
  restoreBackup plainFormat (fun s => s = step) ("20260101T000000Z", "20260101T000000Z") backupPath
    "/var/lib/boxd" configPath disk

/-- The disk with a backup, an older database and an older config. -/
def olderDisk (configPath : Path String) : Disk String :=
  ((backedUp (some [123, 125])).1.writeFile ⟨"/var/lib/boxd", "boxd.db"⟩ [2]).writeFile
    configPath [3]

theorem failedConfig_atomic :
    let restored := failedRestore (.replaceConfig .rename) kernelConfig (olderDisk kernelConfig)
    restored.2 = .error "restore kernel config" ∧
      restored.1.files ⟨"/var/lib/boxd", "boxd.db"⟩ =
        (olderDisk kernelConfig).files ⟨"/var/lib/boxd", "boxd.db"⟩ ∧
      restored.1.files kernelConfig = (olderDisk kernelConfig).files kernelConfig := by
  intro restored
  have herror : restored.2 = .error "restore kernel config" := rfl
  exact ⟨herror, restoreBackup_atomic plainFormat (fun _ => rfl) (.inr (by decide)) herror⟩

/-- A config where the copy of the database goes is gone when the restore fails after that. -/
theorem copiedOver_lost : ¬∀ (fails : RestoreStep → Bool) (configPath : Path String)
    (disk : Disk String) (message : String),
      (∀ step, fails (.rollback step) = false) →
      (restoreBackup plainFormat fails ("20260101T000000Z", "20260101T000000Z") backupPath
        "/var/lib/boxd" configPath disk).2 = .error message →
      (restoreBackup plainFormat fails ("20260101T000000Z", "20260101T000000Z") backupPath
        "/var/lib/boxd" configPath disk).1.files configPath = disk.files configPath := by
  intro h
  let copyPath : Path String := preservedPath ⟨"/var/lib/boxd", "boxd.db"⟩ "20260101T000000Z"
  have hkept := h (fun s => s = .replaceDatabase .rename) copyPath (olderDisk copyPath)
    "restore database" (fun _ => rfl) rfl
  exact absurd hkept (by decide)

section checks

variable {format : BackupFormat}

/-- The check walks the manifest: what it lists is there with its checksum. -/
theorem verifyBackupChecksums_ok_iff (entries : GoMap Bytes) (manifest : BackupManifest) :
    verifyBackupChecksums format entries manifest = .ok () ↔
      ∀ (name : String) sum, manifest.checksums[name]? = some sum →
        entries[name]?.map format.checksum = some sum := by
  unfold verifyBackupChecksums
  rw [forM_ok_iff]
  constructor
  · intro h name sum hsum
    have hentry := h (name, sum) (Std.ExtTreeMap.mem_toList_iff_getElem?_eq_some.mpr hsum)
    dsimp only at hentry
    cases hdata : entries[name]? with
    | none =>
      rw [hdata] at hentry
      cases hentry
    | some data =>
      rw [hdata] at hentry
      dsimp only at hentry
      by_cases heq : format.checksum data = sum
      · rw [Option.map_some, heq]
      · rw [if_pos heq] at hentry
        cases hentry
  · rintro h ⟨name, sum⟩ hmem
    obtain ⟨data, hdata, heq⟩ := Option.map_eq_some_iff.mp
      (h name sum (Std.ExtTreeMap.mem_toList_iff_getElem?_eq_some.mp hmem))
    dsimp only
    rw [hdata]
    exact if_neg (not_not.mpr heq)

theorem checkedBackup_ok {fails : RestoreStep → Bool} {archive : Option Bytes} {database : Bytes}
    {config : Option Bytes} (h : checkedBackup format fails archive = .ok (database, config)) :
    ∃ entries manifest, loadBackupArchive format fails archive = .ok (entries, manifest) ∧
      verifyBackupChecksums format entries manifest = .ok () ∧
      entries[backupDatabaseName]? = some database ∧ entries[backupConfigName]? = config := by
  unfold checkedBackup at h
  obtain ⟨⟨entries, manifest⟩, hload, h⟩ := (bind_eq_ok_iff _ _ _).mp h
  obtain ⟨⟨⟩, hverify, h⟩ := (bind_eq_ok_iff _ _ _).mp h
  refine ⟨entries, manifest, hload, hverify, ?_⟩
  cases hdatabase : entries[backupDatabaseName]? with
  | none =>
    rw [hdatabase] at h
    cases h
  | some data =>
    rw [hdatabase] at h
    obtain ⟨⟨⟩, -, h⟩ := (bind_eq_ok_iff _ _ _).mp h
    obtain ⟨rfl, rfl⟩ := Prod.mk.inj (Except.ok.inj h)
    exact ⟨rfl, rfl⟩

/-- The entries that a restore writes. -/
def restoredNames : List String := [backupDatabaseName, backupConfigName]

/-- What is written is in the manifest, with its checksum. -/
def Checksummed (format : BackupFormat) (entries : GoMap Bytes) (manifest : BackupManifest) :
    Prop :=
  ∀ name ∈ restoredNames, ∀ data, entries[name]? = some data →
    manifest.checksums[name]? = some (format.checksum data)

/-- What is written is in the manifest, with whatever checksum. -/
def Listed (entries : GoMap Bytes) (manifest : BackupManifest) : Prop :=
  ∀ name ∈ restoredNames, entries[name]?.isSome → manifest.checksums[name]?.isSome

/-- Something that the manifest lists has another checksum, or is missing. -/
def Tampered (format : BackupFormat) (manifest : BackupManifest)
    (entries entries' : GoMap Bytes) : Prop :=
  ∃ name : String, manifest.checksums[name]?.isSome ∧
    entries'[name]?.map format.checksum ≠ entries[name]?.map format.checksum

theorem checksummed_iff {entries : GoMap Bytes} {manifest : BackupManifest}
    (h : verifyBackupChecksums format entries manifest = .ok ()) :
    Checksummed format entries manifest ↔ Listed entries manifest := by
  rw [verifyBackupChecksums_ok_iff] at h
  constructor
  · intro hsums name hname hsome
    obtain ⟨data, hdata⟩ := Option.isSome_iff_exists.mp hsome
    rw [hsums name hname data hdata]
    rfl
  · intro hlisted name hname data hdata
    obtain ⟨sum, hsum⟩ := Option.isSome_iff_exists.mp
      (hlisted name hname (by rw [hdata]; rfl))
    have heq := h name sum hsum
    rw [hdata, Option.map_some] at heq
    rw [hsum, Option.some.inj heq]

/-- A backup lists what it has. -/
theorem listed_backup (database : Bytes) (config : Option Bytes) (manifestData : Bytes)
    (version : String) (now : Nat) :
    Listed ((backupContents database config).insert backupManifestName manifestData)
      ⟨backupFormatVersion, version, now,
        backupChecksums format (backupContents database config)⟩ := by
  intro name hname hsome
  have hne : backupManifestName ≠ name := by
    rintro rfl
    exact absurd hname (by decide)
  rw [GoMap.getElem?_insert, if_neg hne] at hsome
  rw [backupChecksums, Std.ExtTreeMap.getElem?_map, Option.isSome_map]
  exact hsome

/-- With the manifest of a valid archive the check passes exactly where nothing is tampered. -/
theorem verifyBackupChecksums_iff_not_tampered {entries entries' : GoMap Bytes}
    {manifest : BackupManifest} (h : verifyBackupChecksums format entries manifest = .ok ()) :
    verifyBackupChecksums format entries' manifest = .ok () ↔
      ¬Tampered format manifest entries entries' := by
  rw [verifyBackupChecksums_ok_iff] at h ⊢
  constructor
  · rintro h' ⟨name, hlisted, hne⟩
    obtain ⟨sum, hsum⟩ := Option.isSome_iff_exists.mp hlisted
    exact hne ((h' name sum hsum).trans (h name sum hsum).symm)
  · intro hsame name sum hsum
    by_contra hne
    refine hsame ⟨name, by rw [hsum]; rfl, ?_⟩
    rw [h name sum hsum]
    exact hne

variable {δ : Type*} [DecidableEq δ]

theorem atomicReplaceFile_replaced {fails : FileStep → Bool} {path : Path δ} {data : Bytes}
    {disk disk' : Disk δ} (h : atomicReplaceFile fails path data disk = (disk', .ok ())) :
    disk'.files path = some data := by
  unfold atomicReplaceFile at h
  split_ifs at h <;> cases h
  exact Function.update_self path (some data) disk.files

/-- The files of a restore have what the archive has for them. -/
structure Restored (entries : GoMap Bytes) (databasePath configPath : Path δ) (disk : Disk δ) :
    Prop where
  database : configPath ≠ databasePath →
    disk.files databasePath = entries[backupDatabaseName]?
  config : entries[backupConfigName]?.isSome →
    disk.files configPath = entries[backupConfigName]?

theorem restoreConfig_ok_files {fails : RestoreStep → Bool} {stamp : String}
    {databasePath configPath : Path δ} {previousDatabase : Option Bytes} {config : Bytes}
    {disk : Disk δ} (hcopy : databasePath ≠ preservedPath configPath stamp)
    (h : (restoreConfig fails stamp databasePath configPath previousDatabase config disk).2 =
      .ok ()) :
    (restoreConfig fails stamp databasePath configPath previousDatabase config disk).1.files
        configPath = some config ∧
      (configPath ≠ databasePath →
        (restoreConfig fails stamp databasePath configPath previousDatabase config disk).1.files
          databasePath = disk.files databasePath) := by
  unfold restoreConfig at h ⊢
  dsimp only at h ⊢
  split at h
  · cases h
  · next previous _ =>
    have hkept := preserveRestoreCopy_files (fails .preserveConfig) hcopy previous disk
    split at h
    · cases h
    · next kept hpreserve =>
      rw [hpreserve] at hkept
      split at h
      · cases h
      · next hreplace =>
        refine ⟨atomicReplaceFile_replaced hreplace, fun hne => ?_⟩
        have hreplaced := congrArg (fun result => result.1.files databasePath) hreplace
        dsimp only at hreplaced
        rw [atomicReplaceFile_files_of_ne _ hne.symm, hkept] at hreplaced
        exact hreplaced.symm

/-- What a restore that succeeds has read, checked and written. -/
theorem restoreBackup_accepted {fails : RestoreStep → Bool} {stamps : String × String}
    {archivePath configPath : Path δ} {dataDir : δ} {disk : Disk δ}
    (h : (restoreBackup format fails stamps archivePath dataDir configPath disk).2 = .ok ()) :
    ∃ entries manifest,
      loadBackupArchive format fails (disk.files archivePath) = .ok (entries, manifest) ∧
        verifyBackupChecksums format entries manifest = .ok () ∧
        Restored entries ⟨dataDir, "boxd.db"⟩ configPath
          (restoreBackup format fails stamps archivePath dataDir configPath disk).1 := by
  have hpreserved := database_ne_preservedPath dataDir configPath stamps.2
  unfold restoreBackup at h ⊢
  dsimp only at h ⊢
  split at h
  · cases h
  · next database config hchecked =>
    obtain ⟨entries, manifest, hload, hverify, hdatabase, rfl⟩ := checkedBackup_ok hchecked
    refine ⟨entries, manifest, hload, hverify, ?_⟩
    split_ifs at h ⊢
    split at h
    · cases h
    · split at h
      · cases h
      · split at h
        · cases h
        · next replaced hreplace =>
          have hwritten := atomicReplaceFile_replaced hreplace
          rw [← hdatabase] at hwritten
          split at h
          · next hnone => exact ⟨fun _ => hwritten, fun hsome => by simp [hnone] at hsome⟩
          · next config hconfig =>
            obtain ⟨hfile, hkept⟩ := restoreConfig_ok_files hpreserved h
            refine ⟨fun hne => (hkept hne).trans hwritten, fun _ => ?_⟩
            rw [hconfig]
            exact hfile

/-- What a restore writes was checked exactly where the manifest lists it; and of what the manifest
of a valid archive lists, nothing can be altered or left out. -/
theorem restoreBackup_checksummed_iff (fails : RestoreStep → Bool) (stamps : String × String)
    (archivePath configPath : Path δ) (dataDir : δ) (disk : Disk δ) :
    ((restoreBackup format fails stamps archivePath dataDir configPath disk).2 = .ok () →
      ∃ entries manifest,
        loadBackupArchive format fails (disk.files archivePath) = .ok (entries, manifest) ∧
          Restored entries ⟨dataDir, "boxd.db"⟩ configPath
            (restoreBackup format fails stamps archivePath dataDir configPath disk).1 ∧
          (Checksummed format entries manifest ↔ Listed entries manifest)) ∧
    ∀ valid entries entries' manifest,
      loadBackupArchive format fails valid = .ok (entries, manifest) →
        verifyBackupChecksums format entries manifest = .ok () →
        loadBackupArchive format fails (disk.files archivePath) = .ok (entries', manifest) →
          (verifyBackupChecksums format entries' manifest = .ok () ↔
            ¬Tampered format manifest entries entries') ∧
          (Tampered format manifest entries entries' →
            ∃ message, restoreBackup format fails stamps archivePath dataDir configPath disk =
              (disk, .error message)) := by
  constructor
  · intro h
    obtain ⟨entries, manifest, hload, hverify, hrestored⟩ := restoreBackup_accepted h
    exact ⟨entries, manifest, hload, hrestored, checksummed_iff hverify⟩
  · intro valid entries entries' manifest _ hverify hload
    have hiff : verifyBackupChecksums format entries' manifest = .ok () ↔
        ¬Tampered format manifest entries entries' :=
      verifyBackupChecksums_iff_not_tampered hverify
    refine ⟨hiff, fun htampered => ?_⟩
    cases hchecked : checkedBackup format fails (disk.files archivePath) with
    | error message => exact ⟨message, restoreBackup_rejected format hchecked _ _ _⟩
    | ok restored =>
      obtain ⟨read, listed, hread, hverify', -⟩ := checkedBackup_ok hchecked
      rw [hload] at hread
      obtain ⟨rfl, rfl⟩ := Prod.mk.inj (Except.ok.inj hread)
      exact absurd htampered (hiff.mp hverify')

end checks

/-- The manifest of a backup without a config. -/
def plainManifest : BackupManifest :=
  ⟨backupFormatVersion, "test", 0, backupChecksums plainFormat (backupContents [1] none)⟩

def plainManifestData : Bytes := (plainFormat.encodeManifest plainManifest).getD []

/-- The disk with the archive of that backup, to which a config was added. -/
def addedConfigDisk : Disk String :=
  ⟨fun path => if path = backupPath then
    some (plainFormat.pack (backupFiles [1] (some [123, 125]) plainManifestData)) else none, none⟩

theorem loadBackupArchive_addedConfig :
    loadBackupArchive plainFormat (fun _ => false) (addedConfigDisk.files backupPath) =
      .ok ((backupContents [1] (some [123, 125])).insert backupManifestName plainManifestData,
        plainManifest) := by
  have hlimit : WithinLimit [1] (some [123, 125]) plainManifestData := by
    refine ⟨by decide, fun data hdata => ?_, by decide⟩
    obtain rfl := Option.some.inj hdata
    decide
  have hload := @loadBackupArchive_backup plainFormat [1] (some [123, 125]) plainManifestData
    plainFormat_lawful (fun _ => false) rfl plainManifest rfl rfl
  rw [if_pos hlimit] at hload
  exact hload

/-- What a restore takes from a backup with a config is checksummed. -/
theorem smallConfig_checksummed : ∃ entries manifest,
    loadBackupArchive plainFormat (fun _ => false)
        ((backedUp (some [123, 125])).1.files backupPath) = .ok (entries, manifest) ∧
      entries[backupConfigName]? = some [123, 125] ∧
        Checksummed plainFormat entries manifest := by
  have hok : (restoredTo ⟨"/new", "config.json"⟩ (backedUp (some [123, 125])).1).2 = .ok () := rfl
  obtain ⟨entries, manifest, hload, -, hiff⟩ := (restoreBackup_checksummed_iff (fun _ => false)
    ("20260101T000000Z", "20260101T000000Z") backupPath ⟨"/new", "config.json"⟩ "/var/lib/boxd"
    (backedUp (some [123, 125])).1).1 hok
  have hbacked : (backedUp (some [123, 125])).2 = .ok () := rfl
  obtain ⟨database, manifestData, -, hmanifest, hfiles⟩ := createBackup_ok plainFormat hbacked
  have hbackup := @loadBackupArchive_backup plainFormat database (some [123, 125]) manifestData
    plainFormat_lawful (fun _ => false) rfl _ rfl hmanifest
  have hsame := hload.symm.trans ((congrArg (loadBackupArchive plainFormat fun _ => false)
    hfiles).trans hbackup)
  split_ifs at hsame
  obtain ⟨rfl, rfl⟩ := Prod.mk.inj (Except.ok.inj hsame)
  refine ⟨_, _, hload, ?_, hiff.mpr (listed_backup database (some [123, 125]) manifestData _ _)⟩
  rw [GoMap.getElem?_insert, if_neg (by decide), backupContents, GoMap.getElem?_insert, if_pos rfl]

/-- The added config is restored without a checksum. -/
theorem addedConfig_unchecked : ¬∀ (disk : Disk String) (entries : GoMap Bytes)
    (manifest : BackupManifest), (restoredTo kernelConfig disk).2 = .ok () →
      loadBackupArchive plainFormat (fun _ => false) (disk.files backupPath) =
        .ok (entries, manifest) → Checksummed plainFormat entries manifest := by
  intro h
  have hsums := h addedConfigDisk _ _ rfl loadBackupArchive_addedConfig backupConfigName
    (by decide) [123, 125] (by simp only [backupContents, GoMap.getElem?_insert]; decide)
  have hunlisted : plainManifest.checksums[backupConfigName]? = none := by
    simp only [plainManifest, backupChecksums, backupContents, Std.ExtTreeMap.getElem?_map,
      GoMap.getElem?_insert]
    decide
  rw [hunlisted] at hsums
  cases hsums

end Boxui.Core
