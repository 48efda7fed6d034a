import StylesheetAssets.Disk.Basic

/-!
What programs ask of a disk.

An operation that changes the disk answers the disk as it is afterwards, also where it fails.
-/
namespace StylesheetAssets.Disk

/-- The size that a directory has of its own. -/
def directorySize : Nat := 4096

def size (d : Disk) (p : Path) : Except DiskError Nat :=
  match d.resolve p with
  | .ok (.found _ (.file bytes)) => .ok bytes.size
  | .ok (.found _ .directory) => .ok directorySize
  | .ok (.vacant ..) => .error .notFound
  | .error e => .error e

def currentDirectory (d : Disk) : Except DiskError Path :=
  match d.workDir with
  | some l => .ok ⟨"/" ++ "/".intercalate l⟩
  | none => .error .notFound

/-- The file that a path leads to, with its place. -/
def openFile (d : Disk) (p : Path) : Except DiskError (Location × ByteArray) :=
  match d.resolve p with
  | .ok (.found l (.file bytes)) => .ok (l, bytes)
  | .ok (.found _ .directory) => .error .isADirectory
  | .ok (.vacant ..) => .error .notFound
  | .error e => .error e

def readFile (d : Disk) (p : Path) : Except DiskError ByteArray :=
  (d.openFile p).map (·.2)

def decode (bytes : ByteArray) : Except DiskError String :=
  match String.fromUTF8? bytes with
  | some text => .ok text
  | none => .error .invalidText

def readText (d : Disk) (p : Path) : Except DiskError String := d.readFile p >>= decode

/-- Where writing to a path puts its bytes: over a file, or in a new one. -/
def writable (d : Disk) (p : Path) : Except DiskError Location :=
  match d.resolve p with
  | .ok (.found l (.file _)) => .ok l
  | .ok (.found _ .directory) => .error .isADirectory
  | .ok (.vacant l asDirectory) => if asDirectory then .error .isADirectory else .ok l
  | .error e => .error e

def writeFile (d : Disk) (p : Path) (bytes : ByteArray) : Except DiskError Unit × Disk :=
  match d.writable p with
  | .ok l => (.ok (), d.put l (.file bytes))
  | .error e => (.error e, d)

def createDirectory (d : Disk) (p : Path) : Except DiskError Unit × Disk :=
  match d.resolve p with
  | .ok (.found ..) => (.error .alreadyExists, d)
  | .ok (.vacant l _) => (.ok (), d.put l .directory)
  | .error e => (.error e, d)

def leadsToDirectory (d : Disk) (p : Path) : Bool :=
  match d.resolve p with
  | .ok (.found _ .directory) => true
  | _ => false

/-- A path and the directories above it, from the inside out. -/
def ancestors (p : Path) : List Path := go p.components.length p
where
  go : Nat → Path → List Path
    | 0, p => [p]
    | n + 1, p =>
      match p.parent? with
      | some parent => p :: go n parent
      | none => [p]

/-- Makes the first directory of a list, and before it those of the rest where they are missing. -/
def createAll (d : Disk) : List Path → Except DiskError Unit × Disk
  | [] => (.ok (), d)
  | p :: above =>
    if p.same .empty then (.ok (), d)
    else
      match d.createDirectory p with
      | (.ok (), d) => (.ok (), d)
      | (.error .notFound, d) =>
        match d.createAll above with
        | (.error e, d) => (.error e, d)
        | (.ok (), d) =>
          match d.createDirectory p with
          | (.ok (), d) => (.ok (), d)
          | (.error e, d) => (if d.leadsToDirectory p then .ok () else .error e, d)
      | (.error e, d) => (if d.leadsToDirectory p then .ok () else .error e, d)

/-- Makes a directory and all that are missing above it. -/
def createDirectories (d : Disk) (p : Path) : Except DiskError Unit × Disk :=
  d.createAll (ancestors p)

/-- Copies a file and answers how many bytes were written. The destination is emptied before the
source is read, so a file copied onto itself ends empty. -/
def copyFile (d : Disk) (source destination : Path) : Except DiskError Nat × Disk :=
  match d.resolve source with
  | .error e => (.error e, d)
  | .ok (.vacant ..) => (.error .notFound, d)
  | .ok (.found _ .directory) => (.error .notAFile, d)
  | .ok (.found l (.file _)) =>
    match d.writable destination with
    | .error e => (.error e, d)
    | .ok target =>
      let emptied := d.put target (.file .empty)
      match emptied.get? l with
      | some (.file bytes) => (.ok bytes.size, emptied.put target (.file bytes))
      | _ => (.ok 0, emptied)

end StylesheetAssets.Disk
