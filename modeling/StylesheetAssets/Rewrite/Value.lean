import StylesheetAssets.Asset.Target
import StylesheetAssets.Config.Basic
import StylesheetAssets.Copy.Queue
import StylesheetAssets.Path.Lexical
import StylesheetAssets.Url.Fragment

/-!
Declaration values with their references resolved.

A reference of a kind that has an output directory is replaced: by the bytes of its file if the
file is small, otherwise by the path of a copy. Nothing else of a value changes.
-/
namespace StylesheetAssets

/-- What became of the references of a stylesheet. -/
structure RewriteStats where
  inlined : Nat := 0
  copied : Nat := 0
  /-- References that were left as they are because their kind has no output directory. -/
  skipped : Nat := 0
deriving DecidableEq, Inhabited, Repr

/-- Both together. -/
def RewriteStats.merge (a b : RewriteStats) : RewriteStats :=
  ⟨a.inlined + b.inlined, a.copied + b.copied, a.skipped + b.skipped⟩

/-- What becomes of a reference. -/
inductive Resolution where
  | skipped
  | inlined (uri : String)
  | relocated (reference : String)
deriving DecidableEq, Repr

namespace Resolution

/-- The new text of the reference. -/
def text? : Resolution → Option String
  | skipped => none
  | inlined uri => some uri
  | relocated reference => some reference

def stats : Resolution → RewriteStats
  | skipped => { skipped := 1 }
  | inlined _ => { inlined := 1 }
  | relocated _ => { copied := 1 }

end Resolution

/-- A path in slash notation without its first segment; a path of one segment stays. -/
def dropFirstSegment (path : List Char) : List Char :=
  match Text.splitAt (· == '/') path with
  | (_, _ :: rest) => rest
  | (segment, []) => segment

/-- The path of a copy as seen from the directory of the stylesheet. Where that is not known, it is
taken to be the first directory on the way from the working directory to the copy. -/
def referencePath (destination : Path) (cssOutput : Option Path) (workDir : Path) :
    StateM Journal String := do
  match cssOutput with
  | some directory => return (destination.relativeTo directory).toSlash
  | none =>
    let relative := (destination.relativeTo workDir).toSlash
    Journal.detail "output" s!"no css_output, stripping first segment of {relative}"
    return String.ofList (dropFirstSegment relative.toList)

/-- Asks for a copy of a file and answers the path by which to refer to it. -/
def relocate (config : Config) (target : AssetTarget) (directory : Path) : Copying String := do
  match ← Session.createDirectories directory with
  | .error cause => throw (.outputDirectory directory cause)
  | .ok () => pure ()
  let hash ←
    if config.hash then
      let bytes ← Copying.ofSession target.read
      pure (some (Digest.ContentHash.ofBytes bytes))
    else pure none
  let destination := directory.join ⟨target.outputName hash⟩
  Session.detail "copy" s!"{target.path.text} -> {destination.text}"
  CopyQueue.request target.path destination
  Session.noting (referencePath destination config.cssOutput config.workDir)

/-- Resolves one reference against a directory. -/
def resolveReference (config : Config) (base : Path) (reference : List Char) :
    Copying Resolution := do
  let (file, suffix) := Url.splitSuffix reference
  let file := String.ofList file
  let raw := String.ofList reference
  match config.route? file with
  | none =>
    Session.detail "skip" s!"{raw} (no output for {(config.categoryOf file).name})"
    return .skipped
  | some (category, directory) =>
    let target ← Copying.ofSession (AssetTarget.resolve (Path.absolutize ⟨file⟩ base))
    let note := s!"{category.name} {raw} ({target.size} bytes)"
    if target.size ≤ config.limit then
      let bytes ← Copying.ofSession target.read
      Session.detail "inline" note
      return .inlined (target.dataUri bytes)
    else
      Session.detail "copy" note
      let path ← relocate config target directory
      let start := if config.slash then "./" else ""
      return .relocated (start ++ path ++ String.ofList suffix)

/-- Resolves a fragment of a value if it is a reference to a file. -/
def resolveFragment (config : Config) (base : Path) :
    Url.Fragment → Copying (Url.Fragment × RewriteStats)
  | .char c => return (.char c, {})
  | .url o => do
    if o.isLocal then
      let resolution ← resolveReference config base o.path
      match resolution.text? with
      | some text => return (.url (o.withPath text.toList), resolution.stats)
      | none => return (.url o, resolution.stats)
    else return (.url o, {})

/-- Notes the references that lead out of the file system. -/
def noteForeign (fragments : List Url.Fragment) : StateM Session Unit :=
  fragments.forM fun
    | .url o =>
      if !o.path.isEmpty && Url.hasScheme o.path then
        Session.detail "scan" ("skip " ++ String.ofList o.path)
      else pure ()
    | .char _ => pure ()

/-- Resolves all references of a value against a directory. -/
def rewriteValue (config : Config) (base : Path) (value : String) :
    Copying (String × RewriteStats) := do
  let fragments := Url.fragments none value.toList
  noteForeign fragments
  let resolved ← fragments.mapM (resolveFragment config base)
  return (String.ofList (Url.spell (resolved.map (·.1))),
    resolved.foldl (fun stats r => stats.merge r.2) {})

end StylesheetAssets
