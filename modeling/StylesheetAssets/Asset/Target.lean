import StylesheetAssets.Base64
import StylesheetAssets.Digest.ContentHash
import StylesheetAssets.Path.Basic
import StylesheetAssets.Rewrite.Error
import StylesheetAssets.Session

/-!
Files that references lead to, and the names of their copies.
-/
namespace StylesheetAssets

/-! ### Media types of the image and font formats that stylesheets refer to -/

namespace MediaType

/-- The media type of an extension in lower case, without its dot. -/
def ofExtension : Option String → String
  | some "png" => "image/png"
  | some "jpg" => "image/jpeg"
  | some "jpeg" => "image/jpeg"
  | some "gif" => "image/gif"
  | some "webp" => "image/webp"
  | some "avif" => "image/avif"
  | some "svg" => "image/svg+xml"
  | some "ico" => "image/x-icon"
  | some "bmp" => "image/bmp"
  | some "woff" => "font/woff"
  | some "woff2" => "font/woff2"
  | some "ttf" => "font/ttf"
  | some "otf" => "font/otf"
  | some "eot" => "application/vnd.ms-fontobject"
  | _ => "application/octet-stream"

/-- The media type of a file, whatever the case of its extension. -/
def ofPath (p : Path) : String := ofExtension (p.extension?.map Text.lowerAscii)

end MediaType

/-! ### Files -/

structure AssetTarget where
  path : Path
  /-- Its size when it was found. -/
  size : Nat
  /-- The extension as it is written, empty where there is none. -/
  extension : String
deriving DecidableEq, Repr

namespace AssetTarget

def resolve (path : Path) : StateM Session (Except RewriteError AssetTarget) := do
  match ← Session.size path with
  | .ok size => return .ok ⟨path, size, path.extension?.getD ""⟩
  | .error cause => return .error (.asset path cause)

/-- The bytes of the file as they are now. -/
def read (t : AssetTarget) : StateM Session (Except RewriteError ByteArray) := do
  return (← Session.readFile t.path).mapError (.asset t.path)

def stem (t : AssetTarget) : String := t.path.stem?.getD ""

def fileName (t : AssetTarget) : String := t.path.fileName?.getD ""

/-- The name of a copy: the file's own, or one that holds the hash of its content. -/
def outputName (t : AssetTarget) : Option Digest.ContentHash → String
  | none => t.fileName
  | some hash =>
    let name := t.stem ++ "-" ++ hash.fingerprint
    if t.extension.isEmpty then name else name ++ "." ++ t.extension

/-- A reference that holds the bytes of the file itself. -/
def dataUri (t : AssetTarget) (bytes : ByteArray) : String :=
  "data:" ++ MediaType.ofPath t.path ++ ";base64," ++ Base64.encode bytes

end AssetTarget

end StylesheetAssets
