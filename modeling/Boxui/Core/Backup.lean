import Boxui.Library.GoValue
import Mathlib.Logic.Function.Basic

/-! The backup archive: a snapshot of the database, the kernel config when there is one, and a
manifest with their checksums. -/
namespace Boxui.Core
open GoValue

abbrev Bytes := List UInt8

def backupFormatVersion : Nat := 1
def backupDatabaseName : String := "boxd.db"
def backupConfigName : String := "sing-box.json"
def backupManifestName : String := "manifest.json"

def backupNames : List String := [backupDatabaseName, backupConfigName, backupManifestName]

/-- A path is the directory it leads to and a file name there, so two spellings of one path are
one. -/
structure Path (δ : Type*) where
  dir : δ
  base : String
  deriving DecidableEq

/-- The files, and the temporary file of a write in progress, whose name no other file has. -/
structure Disk (δ : Type*) where
  files : Path δ → Option Bytes
  temp : Option Bytes

/-- The operations of a write through a temporary file, and the read and the removal of a file. -/
inductive FileStep where
  | read
  | mkdirAll
  | createTemp
  | chmod
  | write
  | sync
  | close
  | rename
  | remove
  deriving DecidableEq

variable {δ : Type*}

namespace Disk

def createTemp (disk : Disk δ) : Disk δ := { disk with temp := some [] }

def writeTemp (data : Bytes) (disk : Disk δ) : Disk δ := { disk with temp := some data }

def removeTemp (disk : Disk δ) : Disk δ := { disk with temp := none }

@[simp] theorem files_createTemp (disk : Disk δ) : disk.createTemp.files = disk.files := rfl

@[simp] theorem files_writeTemp (data : Bytes) (disk : Disk δ) :
    (disk.writeTemp data).files = disk.files := rfl

@[simp] theorem files_removeTemp (disk : Disk δ) : disk.removeTemp.files = disk.files := rfl

variable [DecidableEq δ]

def renameTemp (path : Path δ) (disk : Disk δ) : Disk δ :=
  match disk.temp with
  | none => disk
  | some data => ⟨Function.update disk.files path (some data), none⟩

def writeFile (path : Path δ) (data : Bytes) (disk : Disk δ) : Disk δ :=
  { disk with files := Function.update disk.files path (some data) }

def remove (path : Path δ) (disk : Disk δ) : Disk δ :=
  { disk with files := Function.update disk.files path none }

@[simp] theorem files_renameTemp_writeTemp (path : Path δ) (data : Bytes) (disk : Disk δ) :
    ((disk.writeTemp data).renameTemp path).files =
      Function.update disk.files path (some data) := rfl

@[simp] theorem files_writeFile (path : Path δ) (data : Bytes) (disk : Disk δ) :
    (disk.writeFile path data).files = Function.update disk.files path (some data) := rfl

@[simp] theorem files_remove (path : Path δ) (disk : Disk δ) :
    (disk.remove path).files = Function.update disk.files path none := rfl

end Disk

variable [DecidableEq δ]

/-- `os.ReadFile`: a file that does not exist is told from one that cannot be read. -/
def readOptionalFile (fails : FileStep → Bool) (path : Path δ) (disk : Disk δ) :
    Except FileStep (Option Bytes) :=
  if fails .read then .error .read else .ok (disk.files path)

structure BackupManifest where
  formatVersion : Nat
  appVersion : String
  createdAt : Nat
  checksums : GoMap String

inductive TarType where
  | regular
  | other
  deriving DecidableEq

/-- What a tar reader finds: a header, and the content unless reading it fails. -/
structure TarEntry where
  name : String
  typeflag : TarType
  size : Nat
  content : Option Bytes

/-- The entry of a regular file. -/
def tarFile (file : String × Bytes) : TarEntry :=
  ⟨file.1, .regular, file.2.length, some file.2⟩

/-- The formats of the archive. `pack` is the gzipped tar of files, and `unpack` what reading one
finds: nothing when it is not gzip, else the entries up to the end or the first header that
cannot be read. `checksum` is the SHA-256 sum in hexadecimal, `opens` says whether bbolt opens a
database file. -/
structure BackupFormat where
  pack : List (String × Bytes) → Bytes
  unpack : Bytes → Option (List TarEntry × Bool)
  encodeManifest : BackupManifest → Option Bytes
  decodeManifest : Bytes → Option BackupManifest
  checksum : Bytes → String
  opens : Bytes → Bool

/-- Tar with gzip and JSON give back what was written in them. -/
structure BackupFormat.Lawful (format : BackupFormat) : Prop where
  unpack_pack : ∀ files : List (String × Bytes), (∀ file ∈ files, file.1 ∈ backupNames) →
    format.unpack (format.pack files) = some (files.map tarFile, true)
  decode_encode : ∀ manifest data, format.encodeManifest manifest = some data →
    data ≠ [] ∧ format.decodeManifest data = some manifest

variable (format : BackupFormat)

def backupChecksums (entries : GoMap Bytes) : GoMap String :=
  entries.map fun _ data => format.checksum data

/-- The entries in the order in which they are written. -/
def archivedFiles (entries : GoMap Bytes) : List (String × Bytes) :=
  backupNames.filterMap fun name => entries[name]?.map (Prod.mk name)

/-- The writes of the tar and gzip streams, their closing included, are one step. -/
def writeBackupArchive (fails : FileStep → Bool) (outputPath : Path δ) (entries : GoMap Bytes)
    (disk : Disk δ) : Disk δ × Except String Unit :=
  if fails .mkdirAll then (disk, .error "create backup directory")
  else if fails .createTemp then (disk, .error "create temporary backup")
  else
    let disk := disk.createTemp
    if fails .chmod then (disk.removeTemp, .error "set backup permissions")
    else if fails .write then (disk.removeTemp, .error "write backup entry")
    else
      let disk := disk.writeTemp (format.pack (archivedFiles entries))
      if fails .sync then (disk.removeTemp, .error "sync backup")
      else if fails .close then (disk.removeTemp, .error "close backup")
      else if fails .rename then (disk.removeTemp, .error "commit backup")
      else (disk.renameTemp outputPath, .ok ())

/-- The entries of a backup before its manifest. -/
def backupContents (database : Bytes) (config : Option Bytes) : GoMap Bytes :=
  let entries := (∅ : GoMap Bytes).insert backupDatabaseName database
  match config with
  | none => entries
  | some config => entries.insert backupConfigName config

/-- `snapshot` is what the read transaction of the database writes. -/
def createBackup (fails : FileStep → Bool) (snapshot : Option Bytes)
    (configPath outputPath : Path δ) (version : String) (now : Nat) (disk : Disk δ) :
    Disk δ × Except String Unit :=
  match snapshot with
  | none => (disk, .error "snapshot database")
  | some database =>
    match readOptionalFile fails configPath disk with
    | .error _ => (disk, .error "read kernel config")
    | .ok config =>
      let entries := backupContents database config
      let manifest := ⟨backupFormatVersion, version, now, backupChecksums format entries⟩
      match format.encodeManifest manifest with
      | none => (disk, .error "encode backup manifest")
      | some manifestData =>
        writeBackupArchive format fails outputPath (entries.insert backupManifestName manifestData)
          disk

theorem writeBackupArchive_ok {fails : FileStep → Bool} {outputPath : Path δ}
    {entries : GoMap Bytes} {disk : Disk δ}
    (h : (writeBackupArchive format fails outputPath entries disk).2 = .ok ()) :
    (writeBackupArchive format fails outputPath entries disk).1.files =
      Function.update disk.files outputPath (some (format.pack (archivedFiles entries))) := by
  unfold writeBackupArchive at h ⊢
  split_ifs at h ⊢
  rfl

/-- The files of an archive in the order in which they are written. -/
def backupFiles (database : Bytes) (config : Option Bytes) (manifest : Bytes) :
    List (String × Bytes) :=
  (backupDatabaseName, database) ::
    (config.toList.map (Prod.mk backupConfigName) ++ [(backupManifestName, manifest)])

theorem archivedFiles_backup (database : Bytes) (config : Option Bytes) (manifest : Bytes) :
    archivedFiles ((backupContents database config).insert backupManifestName manifest) =
      backupFiles database config manifest := by
  cases config <;>
    simp [archivedFiles, backupNames, backupContents, backupFiles, backupDatabaseName,
      backupConfigName, backupManifestName]

/-- What a backup that reports success has written. -/
theorem createBackup_ok {fails : FileStep → Bool} {snapshot : Option Bytes}
    {configPath outputPath : Path δ} {version : String} {now : Nat} {disk : Disk δ}
    (h : (createBackup format fails snapshot configPath outputPath version now disk).2 = .ok ()) :
    ∃ database manifestData, snapshot = some database ∧
      format.encodeManifest ⟨backupFormatVersion, version, now,
        backupChecksums format (backupContents database (disk.files configPath))⟩ =
          some manifestData ∧
      (createBackup format fails snapshot configPath outputPath version now disk).1.files
        outputPath =
          some (format.pack (backupFiles database (disk.files configPath) manifestData)) := by
  unfold createBackup at h ⊢
  cases snapshot with
  | none => cases h
  | some database =>
    by_cases hread : fails .read = true
    · simp [readOptionalFile, hread] at h
    · simp only [readOptionalFile, hread, Bool.false_eq_true, if_false] at h ⊢
      cases hmanifest : format.encodeManifest ⟨backupFormatVersion, version, now,
          backupChecksums format (backupContents database (disk.files configPath))⟩ with
      | none => simp [hmanifest] at h
      | some manifestData =>
        simp only [hmanifest] at h ⊢
        refine ⟨database, manifestData, rfl, hmanifest, ?_⟩
        rw [writeBackupArchive_ok format h, Function.update_self, archivedFiles_backup]

end Boxui.Core
