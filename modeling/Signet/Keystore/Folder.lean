import Signet.Keystore.Sealing

/-! # Keystore files

A folder holds files and other folders by name.  A key is loaded from one file,
or searched for by its address: the entries are looked at in the order of their
names, those that are no files or of the wrong size are passed over, and so is
every file that fails in a way the search takes for "not this one".  The first
file whose key has the address wins.
-/

namespace Signet

/-- What stands under a name. -/
inductive FolderItem
  | file (content : Bytes)
  | folder
  deriving DecidableEq, Repr

/-- An entry of a folder. -/
structure FolderEntry where
  name : String
  item : FolderItem
  deriving DecidableEq, Repr

/-- A folder; `path` is how log records write it. -/
structure Folder where
  path : String
  entries : List FolderEntry
  deriving DecidableEq, Repr

namespace Folder

/-- The path of an entry. -/
def pathOf (f : Folder) (name : String) : String :=
  f.path ++ "/" ++ name

/-- An entry among others; it replaces the one of its name. -/
def put (e : FolderEntry) : List FolderEntry → List FolderEntry
  | [] => [e]
  | x :: r => if x.name = e.name then e :: r else x :: put e r

/-- A folder of entries that are written one after the other. -/
def ofEntries (path : String) (entries : List FolderEntry) : Folder :=
  ⟨path, entries.foldl (fun l e => put e l) []⟩

/-- What stands under a name. -/
def item? (f : Folder) (name : String) : Option FolderItem :=
  (f.entries.find? fun e => e.name == name).map FolderEntry.item

/-- The name of the folder that a folder stands in. -/
def parentName : String := ".."

/-- The steps of a path; empty ones and those that stay where they are do not
count. -/
def stepsOf (path : String) : List String :=
  ((path.toList.splitOnP (· = '/')).map String.ofList).filter fun s => s ≠ "" ∧ s ≠ "."

/-- What stands at the end of steps that start in the folder.  The folders in it
are empty, and nothing is known of what it stands in. -/
def walk (f : Folder) : List String → Except Error FolderItem
  | [] => .ok .folder
  | [name] =>
    if name = parentName then .ok .folder
    else match f.item? name with
      | some item => .ok item
      | none => .error .fileNotFound
  | name :: next :: rest =>
    match if name = parentName then none else f.item? name with
    | none => .error .fileNotFound
    | some (.file _) => .error .notDirectory
    | some .folder => if next = parentName then f.walk rest else .error .fileNotFound

/-- The content of a file. -/
def read (f : Folder) (path : String) : Except Error Bytes :=
  if path.toList.contains '\x00' then .error .range
  else
    match f.walk (stepsOf path) with
    | .error e => .error e
    | .ok .folder => .error .isDirectory
    | .ok (.file content) => .ok content

/-- The entries in the order of their names, character by character. -/
def sorted (f : Folder) : List FolderEntry :=
  f.entries.mergeSort fun a b => decide (a.name ≤ b.name)

/-- Records that a key was loaded. -/
def logLoaded (f : Folder) (address : Address) (name : String) : Logged Unit :=
  Logged.write .info ("loaded key " ++ address.hex ++ " from " ++ f.pathOf name)

/-- Records that an entry is passed over. -/
def logSkipped (f : Folder) (name reason : String) : Logged Unit :=
  Logged.write .debug ("skipping " ++ f.pathOf name ++ ": " ++ reason)

/-- The secret key of the keystore file `name`. -/
def loadFile (C : Curve) (f : Folder) (name : String) (passphrase : Datum) :
    Logged SecretKey := do
  let content ← f.read name
  let secret ← Keystore.unlockContent C (.bytes content) passphrase
  f.logLoaded (C.address secret) (String.intercalate "/" (stepsOf name))
  return secret

/-- The content of an entry that is worth reading, or why it is passed over: it
is no file, or its size is zero or at least `maxFileSize`. -/
def candidate (maxFileSize : Nat) (item : FolderItem) : Except String Bytes :=
  match item with
  | .folder => .error "not a file"
  | .file content =>
    if content.length = 0 ∨ maxFileSize ≤ content.length then .error "size" else .ok content

/-- Whether a search goes on after a failure. -/
def isSkipped (e : Failure) : Bool :=
  e.refuses || e.isDeclared ||
    match e with
    | .error e => e.isFile
    | _ => false

/-- Looks for a key with the given address in entries. -/
def search (C : Curve) (f : Folder) (passphrase : Datum) (address : Address)
    (maxFileSize : Nat) : List FolderEntry → Logged SecretKey
  | [] => Logged.fail (.keyNotFound address)
  | entry :: rest => do
    match candidate maxFileSize entry.item with
    | .error reason => do
      f.logSkipped entry.name reason
      search C f passphrase address maxFileSize rest
    | .ok content => do
      match ← (Keystore.unlockContent C (.bytes content) passphrase).attempt with
      | .ok secret =>
        if C.address secret = address then do
          f.logLoaded address entry.name
          return secret
        else search C f passphrase address maxFileSize rest
      | .error e =>
        if isSkipped e then do
          f.logSkipped entry.name e.label
          search C f passphrase address maxFileSize rest
        else Logged.ofExcept (.error e)

/-- Searches a folder for the key of an address. -/
def loadKey (C : Curve) (f : Folder) (passphrase address : Datum) (config : KeystoreConfig) :
    Logged SecretKey := do
  let address ← Address.ofDatum address
  f.search C passphrase address config.maxFileSize f.sorted

end Folder
end Signet
